import RemoteCL.Client.Mapping
import Mathlib.Data.Finset.Insert
import Mathlib.Logic.Relation

/-!
# The mappings of a buffer

What the two functions that map and unmap a buffer can do, whatever becomes of the commands that
they forward: the allocation may fail, every command may return any error, and the connection may
be lost at any of them.  A map that succeeds adds one mapping and retains the object once, an unmap
that succeeds removes one mapping and releases the object once, and a call that fails does neither.

The addresses of arrays are chosen by the allocator, which does not hand out an array a second time
before it has been deleted.  This is what keeps the mappings apart, and what makes a failing map
drop its own mapping.
-/

namespace RemoteCL

open ByteStream Conversation Client

/-! ## The environment -/

/-- The content of a buffer from an offset on. -/
def slice (buffer : Bytes) (offset size : ℕ) : Bytes := (buffer.drop offset).take size

/-- A buffer in which data has been written at an offset. -/
def overwrite (buffer : Bytes) (offset : ℕ) (data : Bytes) : Bytes :=
  buffer.take offset ++ storeInto (buffer.drop offset) data

/-- What is around the two functions: the arrays that are allocated and what is in them, the buffer
on the server, and how often the object has been retained and released. -/
structure Host where
  live : Finset ℕ
  data : ℕ → Bytes
  buffer : Bytes
  retains : ℕ
  releases : ℕ

namespace Host

/-- A new array, with anything in it. -/
def allocated (h : Host) (ptr : ℕ) (garbage : Bytes) : Host :=
  { h with live := insert ptr h.live, data := Function.update h.data ptr garbage }

/-- What `clEnqueueReadBuffer` does when it succeeds.  The offset and the size cross the wire in 32
bits. -/
def hasRead (h : Host) (offset size : UInt64) (ptr : ℕ) : Host :=
  { h with
    data := Function.update h.data ptr
      (storeInto (h.data ptr) (slice h.buffer offset.toUInt32.toNat size.toUInt32.toNat)) }

/-- What `clEnqueueWriteBuffer` does when it succeeds. -/
def hasWritten (h : Host) (offset size : UInt64) (ptr : ℕ) : Host :=
  { h with
    buffer := overwrite h.buffer offset.toUInt32.toNat (memRead (h.data ptr) size.toUInt32.toNat) }

/-- The outcomes of the calls.  A command may fail in any way; then what it should have stored is
not known. -/
inductive Answers : Host → (c : MapCall) → MapAns c → Host → Prop
  | exhausted {h size} : Answers h (.new size) none h
  | new {h size ptr} {garbage : Bytes} (hptr : ptr ∉ h.live) (hlen : garbage.length = size.toNat) :
      Answers h (.new size) (some ptr) (h.allocated ptr garbage)
  | delete {h ptr} : Answers h (.delete ptr) () { h with live := h.live.erase ptr }
  | read {h q b block offset size ptr args} :
      Answers h (.clEnqueueReadBuffer q b block offset size ptr args) CL_SUCCESS
        (h.hasRead offset size ptr)
  | readFails {h q b block offset size ptr args err} (x : Bytes) (herr : err ≠ CL_SUCCESS) :
      Answers h (.clEnqueueReadBuffer q b block offset size ptr args) err
        { h with data := Function.update h.data ptr x }
  | write {h q b block offset size ptr args} :
      Answers h (.clEnqueueWriteBuffer q b block offset size ptr args) CL_SUCCESS
        (h.hasWritten offset size ptr)
  | writeFails {h q b block offset size ptr args err} (x : Bytes) (herr : err ≠ CL_SUCCESS) :
      Answers h (.clEnqueueWriteBuffer q b block offset size ptr args) err { h with buffer := x }
  | wait {h n events err} : Answers h (.clWaitForEvents n events) err h
  | retain {h m err} : Answers h (.clRetainMemObject m) err { h with retains := h.retains + 1 }
  | release {h m err} : Answers h (.clReleaseMemObject m) err { h with releases := h.releases + 1 }

theorem exists_answers (h : Host) (c : MapCall) : ∃ a h', Answers h c a h' := by
  cases c with
  | new size => exact ⟨_, _, .exhausted⟩
  | delete ptr => exact ⟨_, _, .delete⟩
  | clEnqueueReadBuffer q b block offset size ptr args => exact ⟨_, _, .read⟩
  | clEnqueueWriteBuffer q b block offset size ptr args => exact ⟨_, _, .write⟩
  | clWaitForEvents n events => exact ⟨CL_SUCCESS, _, .wait⟩
  | clRetainMemObject m => exact ⟨CL_SUCCESS, _, .retain⟩
  | clReleaseMemObject m => exact ⟨CL_SUCCESS, _, .release⟩

end Host

/-! ## What a call can do -/

section Effects

variable {s s' : List Mapping} {h h' : Host} {o u : Bytes} {ptr : ℕ}
variable {queue : Option Handle} {buffer : Handle} {args : WaitArgs}

/-- What is in a new mapping. -/
def mappedData (h : Host) (flags offset size : UInt64) (garbage : Bytes) : Bytes :=
  if flags &&& CL_MAP_READ ≠ 0 then
    storeInto garbage (slice h.buffer offset.toUInt32.toNat size.toUInt32.toNat)
  else garbage

/-- What `clEnqueueMapBuffer` can do. -/
inductive Mapped (flags offset size : UInt64) (errcode_ret : Bool) (s : List Mapping) (h : Host) :
    Except Exn MapRet → List Mapping → Host → Prop
  | fails {h' : Host} (code : Int32) (hcode : code ≠ CL_SUCCESS) (hlive : h'.live = h.live)
      (hretains : h'.retains = h.retains) (hreleases : h'.releases = h.releases) :
      Mapped flags offset size errcode_ret s h (.ok ⟨none, storedCode errcode_ret code⟩) s h'
  | maps {h' : Host} (ptr : ℕ) (garbage : Bytes) (hptr : ptr ∉ h.live)
      (hlen : garbage.length = size.toNat) (hlive : h'.live = insert ptr h.live)
      (hdata : h'.data ptr = mappedData h flags offset size garbage)
      (hbuffer : h'.buffer = h.buffer) (hretains : h'.retains = h.retains + 1)
      (hreleases : h'.releases = h.releases) :
      Mapped flags offset size errcode_ret s h
        (.ok ⟨some ptr, storedCode errcode_ret CL_SUCCESS⟩) (s ++ [⟨ptr, size, offset, flags⟩]) h'

/-- Why an unmap fails: there is no such mapping, or the data has not been written back, or an event
is asked for although nothing is to be written back. -/
def UnmapFails (queue : Option Handle) (buffer : Handle) (args : WaitArgs) (ptr : ℕ)
    (s : List Mapping) (h : Host) (code : Int32) (h' : Host) : Prop :=
  (s.find? (Mapping.isAt ptr) = none ∧ code = CL_INVALID_VALUE) ∨
    ∃ m, s.find? (Mapping.isAt ptr) = some m ∧
      ((m.flags &&& CL_MAP_WRITE ≠ 0 ∧ Host.Answers h (.clEnqueueWriteBuffer queue (some buffer)
          true m.offset m.size m.ptr args) code h') ∨
        (m.flags &&& CL_MAP_WRITE = 0 ∧ args.event = true ∧ code = CL_INVALID_OPERATION))

/-- What `clEnqueueUnmapMemObject` can do. -/
inductive Unmapped (queue : Option Handle) (buffer : Handle) (args : WaitArgs) (ptr : ℕ)
    (s : List Mapping) (h : Host) : Except Exn Int32 → List Mapping → Host → Prop
  | fails {h' : Host} (code : Int32) (hcode : code ≠ CL_SUCCESS) (hlive : h'.live = h.live)
      (hretains : h'.retains = h.retains) (hreleases : h'.releases = h.releases)
      (hcause : UnmapFails queue buffer args ptr s h code h') :
      Unmapped queue buffer args ptr s h (.ok code) s h'
  | unmaps {h' : Host} (m : Mapping) (hm : s.find? (Mapping.isAt ptr) = some m)
      (hevent : m.flags &&& CL_MAP_WRITE ≠ 0 ∨ args.event = false)
      (hlive : h'.live = h.live.erase ptr)
      (hbuffer : h'.buffer = if m.flags &&& CL_MAP_WRITE ≠ 0 then
        (h.hasWritten m.offset m.size m.ptr).buffer else h.buffer)
      (hretains : h'.retains = h.retains) (hreleases : h'.releases = h.releases + 1) :
      Unmapped queue buffer args ptr s h (.ok CL_SUCCESS) (s.eraseP (Mapping.isAt ptr)) h'

/-! ## The mappings of an object -/

section Rules

variable {H : List Mapping → Bytes → Bytes → Prop}

theorem wp_getMapping {size offset flags : UInt64}
    {Q : Except Exn ℕ → List Mapping → Bytes → Bytes → Host → Prop}
    (hnone : Q (.error .badAlloc) s o u h)
    (hnew : ∀ ptr garbage, ptr ∉ h.live → garbage.length = size.toNat →
      Q (.ok ptr) (s ++ [⟨ptr, size, offset, flags⟩]) o u (h.allocated ptr garbage)) :
    (getMapping size offset flags).wp Host.Answers H s o u h Q := by
  rw [getMapping, Prog.wp_bind]
  intro a h' ha
  cases ha with
  | exhausted => exact hnone
  | new hptr hlen => exact hnew _ _ hptr hlen

/-- The mapping at a pointer is erased, and its data deleted. -/
theorem wp_dropMapping (hptr : s.any (Mapping.isAt ptr) = true)
    {Q : Except Exn Unit → List Mapping → Bytes → Bytes → Host → Prop}
    (hdrop : Q (.ok ()) (s.eraseP (Mapping.isAt ptr)) o u { h with live := h.live.erase ptr }) :
    (dropMapping ptr).wp Host.Answers H s o u h Q := by
  rw [dropMapping, Prog.wp_bind]
  show Prog.wp _ _ (if s.any (Mapping.isAt ptr) then _ else _) _ _ _ _ _
  rw [if_pos hptr, Prog.wp_bind]
  intro a h' ha
  cases ha with
  | delete => exact hdrop

theorem isAt_self (m : Mapping) : m.isAt m.ptr = true := beq_self_eq_true m.ptr

/-- A pointer that is new is not the pointer of a mapping. -/
theorem not_isAt_of_notMem (hs : ∀ m ∈ s, m.ptr ∈ h.live) (hptr : ptr ∉ h.live) :
    ∀ m ∈ s, m.isAt ptr = false := by
  intro m hm
  refine beq_eq_false_iff_ne.mpr ?_
  rintro rfl
  exact hptr (hs m hm)

/-- What is dropped is the mapping that has just been added. -/
theorem eraseP_append_new (hs : ∀ m ∈ s, m.isAt ptr = false) {m : Mapping} (hm : m.ptr = ptr) :
    (s ++ [m]).eraseP (Mapping.isAt ptr) = s := by
  have hnone : ∀ x ∈ s, ¬ Mapping.isAt ptr x = true := fun x hx => by
    rw [hs x hx]
    exact Bool.false_ne_true
  rw [List.eraseP_append_right _ hnone, List.eraseP_cons_of_pos (by rw [← hm]; exact isAt_self m),
    List.append_nil]

end Rules

/-! ## The functions -/

section Functions

variable {H : List Mapping → Bytes → Bytes → Prop} {flags offset size : UInt64}

/-- The end of a successful map retains the object. -/
theorem wp_returnMapping {errcode_ret : Bool}
    {Q : Except Exn MapRet → List Mapping → Bytes → Bytes → Host → Prop}
    (hret : Q (.ok ⟨some ptr, storedCode errcode_ret CL_SUCCESS⟩) s o u
      { h with retains := h.retains + 1 }) :
    (returnMapping buffer ptr errcode_ret).wp Host.Answers H s o u h Q := by
  rw [returnMapping, Prog.wp_bind]
  intro a h' ha
  cases ha with
  | retain => exact hret

/-- **Mapping a buffer**, step by step. -/
theorem wp_clEnqueueMapBuffer (hs : ∀ m ∈ s, m.ptr ∈ h.live) (blocking_map errcode_ret : Bool) :
    (clEnqueueMapBuffer queue (some buffer) blocking_map flags offset size args errcode_ret).wp
      Host.Answers H s o u h fun r s' _ _ h' =>
        Mapped flags offset size errcode_ret s h r s' h' := by
  rw [clEnqueueMapBuffer]
  by_cases hflags : flags &&& ~~~(CL_MAP_READ ||| CL_MAP_WRITE) ≠ 0
  · rw [if_pos hflags]
    exact .fails CL_INVALID_VALUE (by decide) rfl rfl rfl
  rw [if_neg hflags]
  refine Prog.wp_tryCatch.mpr (Prog.wp_bind.mpr (wp_getMapping ?_ ?_))
  · exact .fails CL_OUT_OF_HOST_MEMORY (by decide) rfl rfl rfl
  intro ptr garbage hptr hlen
  have hnew := not_isAt_of_notMem hs hptr
  have hdata : (h.allocated ptr garbage).data ptr = garbage := Function.update_self _ _ _
  show Prog.wp _ _ (if flags &&& CL_MAP_READ ≠ 0 then _ else _) _ _ _ _ _
  by_cases hread : flags &&& CL_MAP_READ ≠ 0
  · rw [if_pos hread, Prog.wp_bind]
    intro ret h' hret
    show Prog.wp _ _ (if ret ≠ CL_SUCCESS then _ else _) _ _ _ _ _
    cases hret with
    | read =>
      rw [if_neg (not_not.mpr rfl)]
      refine wp_returnMapping (.maps ptr garbage hptr hlen rfl ?_ rfl rfl rfl)
      rw [mappedData, if_pos hread]
      show Function.update _ ptr _ ptr = _
      rw [Function.update_self, hdata]
      rfl
    | readFails x herr =>
      rw [if_pos herr, Prog.wp_bind]
      refine wp_dropMapping ?_ ?_
      · rw [List.any_append]
        refine Bool.or_eq_true_iff.mpr (Or.inr (Bool.or_eq_true_iff.mpr (Or.inl ?_)))
        exact beq_self_eq_true ptr
      · rw [eraseP_append_new hnew rfl]
        exact .fails CL_INVALID_VALUE (by decide) (Finset.erase_insert hptr) rfl rfl
  · have hmapped : mappedData h flags offset size garbage = garbage := if_neg hread
    have hmaps : Mapped flags offset size errcode_ret s h
        (.ok ⟨some ptr, storedCode errcode_ret CL_SUCCESS⟩) (s ++ [⟨ptr, size, offset, flags⟩])
        { h.allocated ptr garbage with retains := h.retains + 1 } :=
      .maps ptr garbage hptr hlen rfl (hdata.trans hmapped.symm) rfl rfl rfl
    rw [if_neg hread]
    split_ifs with hwait
    · rw [Prog.wp_bind]
      intro ret h' hret
      cases hret with
      | wait => exact wp_returnMapping hmaps
    · exact wp_returnMapping hmaps

theorem wp_getMappingAt {Q : Except Exn Mapping → List Mapping → Bytes → Bytes → Host → Prop}
    (hnone : s.find? (Mapping.isAt ptr) = none → Q (.error .other) s o u h)
    (hsome : ∀ m, s.find? (Mapping.isAt ptr) = some m → Q (.ok m) s o u h) :
    (getMappingAt ptr).wp Host.Answers H s o u h Q := by
  rw [getMappingAt_eq, Prog.wp]
  cases hfind : s.find? (Mapping.isAt ptr) with
  | none => exact hnone hfind
  | some m => exact hsome m hfind

/-- The end of a successful unmap drops the mapping and releases the object. -/
theorem wp_endMapping (hptr : s.any (Mapping.isAt ptr) = true)
    {Q : Except Exn Int32 → List Mapping → Bytes → Bytes → Host → Prop}
    (hend : Q (.ok CL_SUCCESS) (s.eraseP (Mapping.isAt ptr)) o u
      { h with live := h.live.erase ptr, releases := h.releases + 1 }) :
    (endMapping buffer ptr).wp Host.Answers H s o u h Q := by
  rw [endMapping, Prog.wp_bind]
  refine wp_dropMapping hptr ?_
  rw [Prog.afterBind_ok, Prog.wp_bind]
  intro a h' ha
  cases ha with
  | release => exact hend

/-- **Unmapping a buffer**, step by step. -/
theorem wp_clEnqueueUnmapMemObject (ptr : ℕ) :
    (clEnqueueUnmapMemObject queue (some buffer) ptr args).wp Host.Answers H s o u h
      fun r s' _ _ h' => Unmapped queue buffer args ptr s h r s' h' := by
  rw [clEnqueueUnmapMemObject]
  refine Prog.wp_tryCatch.mpr (Prog.wp_bind.mpr (wp_getMappingAt (fun hnone => ?_) fun m hm => ?_))
  · exact .fails CL_INVALID_VALUE (by decide) rfl rfl rfl (Or.inl ⟨hnone, rfl⟩)
  have hany : s.any (Mapping.isAt ptr) = true :=
    List.any_eq_true.mpr ⟨m, List.mem_of_find?_eq_some hm, List.find?_some hm⟩
  rw [Prog.afterBind_ok]
  by_cases hwrite : m.flags &&& CL_MAP_WRITE ≠ 0
  · rw [if_pos hwrite, Prog.wp_bind]
    intro ret h' hret
    show Prog.wp _ _ (if ret ≠ CL_SUCCESS then _ else _) _ _ _ _ _
    cases hret with
    | write =>
      rw [if_neg (not_not.mpr rfl)]
      exact wp_endMapping hany (.unmaps m hm (Or.inl hwrite) rfl (if_pos hwrite).symm rfl rfl)
    | writeFails x herr =>
      rw [if_pos herr]
      exact .fails ret herr rfl rfl rfl (Or.inr ⟨m, hm, Or.inl ⟨hwrite, .writeFails x herr⟩⟩)
  · have hunmaps (hevent : args.event = false) :
        Unmapped queue buffer args ptr s h (.ok CL_SUCCESS) (s.eraseP (Mapping.isAt ptr))
          { h with live := h.live.erase ptr, releases := h.releases + 1 } :=
      .unmaps m hm (Or.inr hevent) rfl (if_neg hwrite).symm rfl rfl
    rw [if_neg hwrite]
    split_ifs with hevent hwait
    · exact .fails CL_INVALID_OPERATION (by decide) rfl rfl rfl
        (Or.inr ⟨m, hm, Or.inr ⟨not_not.mp hwrite, hevent, rfl⟩⟩)
    · rw [Prog.wp_bind]
      intro ret h' hret
      cases hret with
      | wait => exact wp_endMapping hany (hunmaps (Bool.eq_false_of_not_eq_true hevent))
    · exact wp_endMapping hany (hunmaps (Bool.eq_false_of_not_eq_true hevent))

end Functions

end Effects

/-! ## Calls end -/

section Silent

variable {queue : Option Handle} {buffer : Handle} {args : WaitArgs}

theorem silent_forward (c : MapCall) : Prog.Silent (forward c) := fun _ => trivial

theorem silent_dropMapping (ptr : ℕ) : Prog.Silent (dropMapping ptr) := by
  intro s
  show Prog.Silent (if s.any (Mapping.isAt ptr) then _ else _)
  split_ifs
  · exact silent_forward _
  · trivial

theorem silent_getMapping (size offset flags : UInt64) :
    Prog.Silent (getMapping size offset flags) := by
  refine (silent_forward _).bind fun a => ?_
  cases a with
  | none => trivial
  | some ptr => exact fun s => trivial

theorem silent_returnMapping (ptr : ℕ) (errcode_ret : Bool) :
    Prog.Silent (returnMapping buffer ptr errcode_ret) := (silent_forward _).bind fun _ => trivial

theorem silent_clEnqueueMapBuffer (blocking_map : Bool) (flags offset size : UInt64)
    (errcode_ret : Bool) :
    Prog.Silent (clEnqueueMapBuffer queue (some buffer) blocking_map flags offset size args
      errcode_ret) := by
  rw [clEnqueueMapBuffer]
  split_ifs
  · trivial
  · refine Prog.Silent.tryCatch ((silent_getMapping _ _ _).bind fun ptr =>
      (silent_forward _).bind fun ret => ?_) fun _ => trivial
    split_ifs
    · exact (silent_dropMapping ptr).bind fun _ => trivial
    · exact silent_returnMapping ptr errcode_ret
  · exact Prog.Silent.tryCatch ((silent_getMapping _ _ _).bind fun ptr =>
      (silent_forward _).bind fun _ => silent_returnMapping ptr errcode_ret) fun _ => trivial
  · exact Prog.Silent.tryCatch ((silent_getMapping _ _ _).bind fun ptr =>
      silent_returnMapping ptr errcode_ret) fun _ => trivial

theorem silent_endMapping (ptr : ℕ) : Prog.Silent (endMapping buffer ptr) :=
  (silent_dropMapping ptr).bind fun _ => (silent_forward _).bind fun _ => trivial

theorem silent_clEnqueueUnmapMemObject (ptr : ℕ) :
    Prog.Silent (clEnqueueUnmapMemObject queue (some buffer) ptr args) := by
  have hget : Prog.Silent (getMappingAt ptr) := by
    rw [getMappingAt_eq]
    intro s
    beta_reduce
    cases s.find? (Mapping.isAt ptr) <;> trivial
  refine Prog.Silent.tryCatch (hget.bind fun m => ?_) fun _ => trivial
  split_ifs
  · refine (silent_forward _).bind fun ret => ?_
    split_ifs
    · trivial
    · exact silent_endMapping ptr
  · trivial
  · exact (silent_forward _).bind fun _ => silent_endMapping ptr
  · exact silent_endMapping ptr

end Silent

/-! ## An unmap that succeeds -/

section Ends

variable {s : List Mapping} {h : Host} {ptr : ℕ} {m : Mapping} {queue : Option Handle}
variable {buffer : Handle} {args : WaitArgs}

theorem ends_getMappingAt (hm : s.find? (Mapping.isAt ptr) = some m) :
    Prog.Ends Host.Answers (getMappingAt ptr) s h (.ok m) s h := by
  rw [getMappingAt_eq]
  refine .get ?_
  rw [hm]
  exact .ret

theorem ends_dropMapping (hptr : s.any (Mapping.isAt ptr) = true) :
    Prog.Ends Host.Answers (dropMapping ptr) s h (.ok ()) (s.eraseP (Mapping.isAt ptr))
      { h with live := h.live.erase ptr } := by
  refine .get ?_
  show Prog.Ends _ (if s.any (Mapping.isAt ptr) then _ else _) _ _ _ _ _
  rw [if_pos hptr]
  exact .put (.call .delete .ret)

theorem ends_endMapping (hptr : s.any (Mapping.isAt ptr) = true) :
    Prog.Ends Host.Answers (endMapping buffer ptr) s h (.ok CL_SUCCESS)
      (s.eraseP (Mapping.isAt ptr))
      { h with live := h.live.erase ptr, releases := h.releases + 1 } :=
  (ends_dropMapping hptr).bind (.call (a := CL_SUCCESS) .release .ret)

/-- A mapping is unmapped if the data can be written back, or need not be and no event is asked
for. -/
theorem ends_unmap (hm : s.find? (Mapping.isAt ptr) = some m)
    (hevent : m.flags &&& CL_MAP_WRITE ≠ 0 ∨ args.event = false) :
    ∃ s' h', Prog.Ends Host.Answers (clEnqueueUnmapMemObject queue (some buffer) ptr args) s h
      (.ok CL_SUCCESS) s' h' := by
  have hany : s.any (Mapping.isAt ptr) = true :=
    List.any_eq_true.mpr ⟨m, List.mem_of_find?_eq_some hm, List.find?_some hm⟩
  suffices h : ∃ h', Prog.Ends Host.Answers _ s h (.ok CL_SUCCESS) _ h' from
    ⟨s.eraseP (Mapping.isAt ptr), h.imp fun h' hend =>
      Prog.Ends.tryCatch ((ends_getMappingAt hm).bind hend) _⟩
  by_cases hwrite : m.flags &&& CL_MAP_WRITE ≠ 0
  · rw [if_pos hwrite]
    exact ⟨_, .call .write (ends_endMapping hany)⟩
  · rw [if_neg hwrite, if_neg (Bool.eq_false_iff.mp (hevent.resolve_left hwrite))]
    split_ifs
    · exact ⟨_, .call (a := CL_SUCCESS) .wait (ends_endMapping hany)⟩
    · exact ⟨_, ends_endMapping hany⟩

end Ends

/-! ## Runs -/

/-- A call of one of the two functions on a buffer. -/
inductive MapStep (buffer : Handle) : List Mapping × Host → List Mapping × Host → Prop
  | map {s h r s' h'} (queue : Option Handle) (blocking_map : Bool) (flags offset size : UInt64)
      (args : WaitArgs) (errcode_ret : Bool)
      (hcall : Prog.Ends Host.Answers (clEnqueueMapBuffer queue (some buffer) blocking_map flags
        offset size args errcode_ret) s h r s' h') : MapStep buffer (s, h) (s', h')
  | unmap {s h r s' h'} (queue : Option Handle) (ptr : ℕ) (args : WaitArgs)
      (hcall : Prog.Ends Host.Answers (clEnqueueUnmapMemObject queue (some buffer) ptr args)
        s h r s' h') : MapStep buffer (s, h) (s', h')

/-- The mappings are arrays of their own, and each of them retains the object. -/
structure Bookkept (s : List Mapping) (h : Host) : Prop where
  nodup : (s.map Mapping.ptr).Nodup
  live : ∀ m ∈ s, m.ptr ∈ h.live
  balance : h.retains = h.releases + s.length

variable {s s' : List Mapping} {h h' : Host} {ptr : ℕ}

theorem Mapped.bookkept (hs : Bookkept s h) {flags offset size : UInt64} {errcode_ret : Bool}
    {r : Except Exn MapRet} (hmapped : Mapped flags offset size errcode_ret s h r s' h') :
    Bookkept s' h' := by
  cases hmapped with
  | fails code hcode hlive hretains hreleases =>
    exact ⟨hs.nodup, hlive ▸ hs.live, by rw [hretains, hreleases, hs.balance]⟩
  | maps ptr garbage hptr hlen hlive hdata hbuffer hretains hreleases =>
    refine ⟨?_, ?_, ?_⟩
    · rw [List.map_append, List.nodup_append]
      refine ⟨hs.nodup, List.nodup_singleton ptr, ?_⟩
      rintro p hp q hq rfl
      obtain ⟨m, hm, rfl⟩ := List.mem_map.mp hp
      have heq : m.ptr = ptr := List.mem_singleton.mp hq
      exact hptr (heq ▸ hs.live m hm)
    · intro m hm
      rw [hlive]
      rcases List.mem_append.mp hm with hm | hm
      · exact Finset.mem_insert_of_mem (hs.live m hm)
      · rw [List.mem_singleton.mp hm]
        exact Finset.mem_insert_self ptr h.live
    · rw [hretains, hreleases, hs.balance, List.length_append, List.length_singleton]
      omega

/-- The mapping that is erased is the only one at its pointer. -/
theorem eraseP_isAt {m : Mapping} (hm : s.find? (Mapping.isAt ptr) = some m) :
    ∃ l m l', s = l ++ m :: l' ∧ m.ptr = ptr ∧ s.eraseP (Mapping.isAt ptr) = l ++ l' := by
  obtain ⟨m', l, l', -, hat, hs, herase⟩ :=
    List.exists_of_eraseP (List.mem_of_find?_eq_some hm) (List.find?_some hm)
  exact ⟨l, m', l', hs, beq_iff_eq.mp hat, herase⟩

theorem Unmapped.bookkept (hs : Bookkept s h) {r : Except Exn Int32}
    {queue : Option Handle} {buffer : Handle} {args : WaitArgs}
    (hunmapped : Unmapped queue buffer args ptr s h r s' h') : Bookkept s' h' := by
  cases hunmapped with
  | fails code hcode hlive hretains hreleases hcause =>
    exact ⟨hs.nodup, hlive ▸ hs.live, by rw [hretains, hreleases, hs.balance]⟩
  | unmaps m hm hevent hlive hbuffer hretains hreleases =>
    obtain ⟨l, m, l', rfl, rfl, herase⟩ := eraseP_isAt hm
    have hnodup := hs.nodup
    rw [List.map_append, List.map_cons, List.nodup_middle, List.nodup_cons, ← List.map_append]
      at hnodup
    rw [herase]
    refine ⟨hnodup.2, fun x hx => ?_, ?_⟩
    · rw [hlive]
      refine Finset.mem_erase.mpr ⟨fun hne => hnodup.1 (hne ▸ List.mem_map_of_mem hx), ?_⟩
      refine hs.live x ?_
      rcases List.mem_append.mp hx with hx | hx
      · exact List.mem_append_left _ hx
      · exact List.mem_append_right _ (List.mem_cons_of_mem m hx)
    · rw [hretains, hreleases, hs.balance, List.length_append, List.length_append,
        List.length_cons]
      omega

/-- Every call keeps the books. -/
theorem Bookkept.step {buffer : Handle} (hs : Bookkept s h)
    (hstep : MapStep buffer (s, h) (s', h')) : Bookkept s' h' := by
  cases hstep with
  | map queue blocking_map flags offset size args errcode_ret hcall =>
    exact (hcall.wp (H := fun _ _ _ => False) (o := []) (u := [])
      (wp_clEnqueueMapBuffer hs.live blocking_map errcode_ret)).bookkept hs
  | unmap queue ptr args hcall =>
    exact (hcall.wp (H := fun _ _ _ => False) (o := []) (u := [])
      (wp_clEnqueueUnmapMemObject ptr)).bookkept hs

/-- So do all of them. -/
theorem Bookkept.run {buffer : Handle} {x y : List Mapping × Host} (hx : Bookkept x.1 x.2)
    (hrun : Relation.ReflTransGen (MapStep buffer) x y) : Bookkept y.1 y.2 := by
  induction hrun with
  | refl => exact hx
  | tail _ hstep ih => exact ih.step hstep

/-- A pointer has one mapping. -/
theorem Bookkept.find?_isAt (hs : Bookkept s h) {m : Mapping} (hm : m ∈ s) :
    s.find? (Mapping.isAt m.ptr) = some m := by
  cases hfind : s.find? (Mapping.isAt m.ptr) with
  | none => exact absurd (isAt_self m) (List.find?_eq_none.mp hfind m hm)
  | some m' =>
    have hat : m'.isAt m.ptr = true := List.find?_some hfind
    have hptr : m'.ptr = m.ptr := beq_iff_eq.mp hat
    rw [List.inj_on_of_nodup_map hs.nodup (List.mem_of_find?_eq_some hfind) hm hptr]

/-- **Mapping bookkeeping**: after any calls, an object has been retained once more for each of its
mappings than it has been released, and the mappings are apart.  The next call, whatever it is,
ends, and adds a mapping and a retain, or removes the mapping that it was given and releases, or
fails and does neither.  An unmap fails for one of three reasons, and can succeed otherwise. -/
theorem mapping_bookkeeping (buffer : Handle) (live : Finset ℕ) (data : ℕ → Bytes)
    (content : Bytes) (s : List Mapping) (h : Host)
    (hrun : Relation.ReflTransGen (MapStep buffer) ([], ⟨live, data, content, 0, 0⟩) (s, h)) :
    h.retains = h.releases + s.length ∧ (s.map Mapping.ptr).Nodup ∧
    (∀ queue blocking_map flags offset size args errcode_ret,
      (∃ r s' h', Prog.Ends Host.Answers (clEnqueueMapBuffer queue (some buffer) blocking_map flags
        offset size args errcode_ret) s h r s' h') ∧
      ∀ r s' h', Prog.Ends Host.Answers (clEnqueueMapBuffer queue (some buffer) blocking_map flags
          offset size args errcode_ret) s h r s' h' →
        (∃ ptr, ptr ∉ s.map Mapping.ptr ∧
          r = .ok ⟨some ptr, storedCode errcode_ret CL_SUCCESS⟩ ∧
          s' = s ++ [⟨ptr, size, offset, flags⟩] ∧ h'.retains = h.retains + 1 ∧
          h'.releases = h.releases) ∨
        ∃ code, code ≠ CL_SUCCESS ∧ r = .ok ⟨none, storedCode errcode_ret code⟩ ∧ s' = s ∧
          h'.retains = h.retains ∧ h'.releases = h.releases) ∧
    ∀ queue ptr args,
      (∃ r s' h', Prog.Ends Host.Answers (clEnqueueUnmapMemObject queue (some buffer) ptr args)
        s h r s' h') ∧
      ((∃ s' h', Prog.Ends Host.Answers (clEnqueueUnmapMemObject queue (some buffer) ptr args)
          s h (.ok CL_SUCCESS) s' h') ↔
        ∃ m ∈ s, m.ptr = ptr ∧ (m.flags &&& CL_MAP_WRITE ≠ 0 ∨ args.event = false)) ∧
      ∀ r s' h', Prog.Ends Host.Answers (clEnqueueUnmapMemObject queue (some buffer) ptr args)
          s h r s' h' →
        (r = .ok CL_SUCCESS ∧ (∃ l m l', s = l ++ m :: l' ∧ m.ptr = ptr ∧ s' = l ++ l') ∧
          h'.retains = h.retains ∧ h'.releases = h.releases + 1) ∨
        ∃ code, code ≠ CL_SUCCESS ∧ r = .ok code ∧ s' = s ∧ h'.retains = h.retains ∧
          h'.releases = h.releases ∧ UnmapFails queue buffer args ptr s h code h' := by
  have hkept : Bookkept s h :=
    Bookkept.run (x := ([], ⟨live, data, content, 0, 0⟩)) ⟨List.nodup_nil, nofun, rfl⟩ hrun
  refine ⟨hkept.balance, hkept.nodup, fun queue blocking_map flags offset size args errcode_ret =>
    ⟨Prog.exists_ends Host.exists_answers (silent_clEnqueueMapBuffer _ _ _ _ _) s h,
      fun r s' h' hcall => ?_⟩, fun queue ptr args =>
    ⟨Prog.exists_ends Host.exists_answers (silent_clEnqueueUnmapMemObject ptr) s h, ⟨?_, ?_⟩,
      fun r s' h' hcall => ?_⟩⟩
  · have hmapped := hcall.wp (H := fun _ _ _ => False) (o := []) (u := [])
      (wp_clEnqueueMapBuffer hkept.live blocking_map errcode_ret)
    cases hmapped with
    | fails code hcode hlive hretains hreleases =>
      exact Or.inr ⟨code, hcode, rfl, rfl, hretains, hreleases⟩
    | maps ptr garbage hptr hlen hlive hdata hbuffer hretains hreleases =>
      refine Or.inl ⟨ptr, fun hmem => ?_, rfl, rfl, hretains, hreleases⟩
      obtain ⟨m, hm, rfl⟩ := List.mem_map.mp hmem
      exact hptr (hkept.live m hm)
  · rintro ⟨s', h', hcall⟩
    have hunmapped := hcall.wp (H := fun _ _ _ => False) (o := []) (u := [])
      (wp_clEnqueueUnmapMemObject ptr)
    cases hunmapped with
    | fails code hcode => exact absurd rfl hcode
    | unmaps m hm hevent =>
      have hat : m.isAt ptr = true := List.find?_some hm
      exact ⟨m, List.mem_of_find?_eq_some hm, beq_iff_eq.mp hat, hevent⟩
  · rintro ⟨m, hm, rfl, hevent⟩
    exact ends_unmap (hkept.find?_isAt hm) hevent
  · have hunmapped := hcall.wp (H := fun _ _ _ => False) (o := []) (u := [])
      (wp_clEnqueueUnmapMemObject ptr)
    cases hunmapped with
    | fails code hcode hlive hretains hreleases hcause =>
      exact Or.inr ⟨code, hcode, rfl, rfl, hretains, hreleases, hcause⟩
    | unmaps m hm hevent hlive hbuffer hretains hreleases =>
      exact Or.inl ⟨rfl, eraseP_isAt hm, hretains, hreleases⟩

/-- A buffer of two bytes, mapped for writing and unmapped. -/
theorem mapping_bookkeeping_once :
    ∃ h h', Relation.ReflTransGen (MapStep ⟨0, 3, .memObject⟩)
        ([], ⟨∅, fun _ => [], [4, 5], 0, 0⟩) ([⟨7, 2, 0, CL_MAP_WRITE⟩], h) ∧ h.retains = 1 ∧
      MapStep ⟨0, 3, .memObject⟩ ([⟨7, 2, 0, CL_MAP_WRITE⟩], h) ([], h') ∧ h'.retains = 1 ∧
      h'.releases = 1 := by
  have hnew : Host.Answers ⟨∅, fun _ => [], [4, 5], 0, 0⟩ (.new 2) (some 7)
      (Host.allocated ⟨∅, fun _ => [], [4, 5], 0, 0⟩ 7 [1, 1]) :=
    .new (Finset.notMem_empty 7) rfl
  have hmap : Prog.Ends Host.Answers (clEnqueueMapBuffer none (some ⟨0, 3, .memObject⟩) false
      CL_MAP_WRITE 0 2 ⟨0, none, false⟩ true) [] ⟨∅, fun _ => [], [4, 5], 0, 0⟩
      (.ok ⟨some 7, some CL_SUCCESS⟩) [⟨7, 2, 0, CL_MAP_WRITE⟩] _ :=
    .call hnew (.get (.put (.call (a := CL_SUCCESS) .retain .ret)))
  have hrun := Relation.ReflTransGen.single
    (MapStep.map none false CL_MAP_WRITE 0 2 ⟨0, none, false⟩ true hmap)
  obtain ⟨-, -, -, hunmap⟩ :=
    mapping_bookkeeping ⟨0, 3, .memObject⟩ ∅ (fun _ => []) [4, 5] _ _ hrun
  obtain ⟨-, hsucceeds, hends⟩ := hunmap none 7 ⟨0, none, false⟩
  obtain ⟨s', h', hcall⟩ :=
    hsucceeds.mpr ⟨_, List.mem_singleton_self _, rfl, Or.inl (by decide)⟩
  obtain ⟨-, ⟨l, m, l', hs, -, rfl⟩, hretains, hreleases⟩ | ⟨code, hcode, hr, -⟩ :=
    hends _ _ _ hcall
  · -- there was one mapping
    have hlen := congrArg List.length hs
    simp only [List.length_append, List.length_cons, List.length_nil] at hlen
    have hl : l = [] := List.length_eq_zero_iff.mp (by omega)
    have hl' : l' = [] := List.length_eq_zero_iff.mp (by omega)
    subst hl hl'
    exact ⟨_, h', hrun, rfl, .unmap none 7 ⟨0, none, false⟩ hcall, hretains, hreleases⟩
  · exact absurd (Except.ok.inj hr).symm hcode

end RemoteCL

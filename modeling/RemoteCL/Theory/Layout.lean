import Mathlib.Data.Finset.Prod
import Mathlib.Data.Finset.Card
import Mathlib.Tactic.Ring

/-!
# Boxes in linear memory

A three-dimensional box of cells lies in a linear memory: the cells of a row are next to each other,
one row starts `row` cells behind the other, and one slice `slice` cells behind the other.  Rows and
slices do not overlap if their distances are large enough (`Pitched`), and then a position belongs
to at most one cell (`locate`).

Two questions about a box have an answer in closed form: how much memory it takes
(`within_iff`), and when it fills the memory from its start without a gap (`fills_iff`).  To put
data into a box is `blit`; it leaves the gaps alone (`puts_iff`).
-/

namespace Layout

/-- A box, and where it lies. -/
structure Box where
  base : ℕ
  row : ℕ
  slice : ℕ
  width : ℕ
  height : ℕ
  depth : ℕ
  deriving DecidableEq

namespace Box

variable (b : Box) {x y z x' y' z' i n : ℕ}

/-- Where a cell lies. -/
def offset (x y z : ℕ) : ℕ := b.base + (z * b.slice + y * b.row + x)

/-- A box without cells. -/
def Empty : Prop := b.width = 0 ∨ b.height = 0 ∨ b.depth = 0

/-- Where the last cell lies. -/
def last : ℕ := b.offset (b.width - 1) (b.height - 1) (b.depth - 1)

/-- Every cell lies below `n`. -/
def Within (n : ℕ) : Prop := ∀ x < b.width, ∀ y < b.height, ∀ z < b.depth, b.offset x y z < n

/-- A position belongs to the box. -/
def Holds (i : ℕ) : Prop := ∃ x < b.width, ∃ y < b.height, ∃ z < b.depth, b.offset x y z = i

/-- Rows do not overlap, and slices do not. -/
structure Pitched : Prop where
  row : b.width ≤ b.row
  slice : b.height * b.row ≤ b.slice

/-- One row is right behind the other, and one slice. -/
def Packed : Prop := (b.height = 1 ∨ b.row = b.width) ∧ (b.depth = 1 ∨ b.slice = b.width * b.height)

instance : Decidable b.Empty := inferInstanceAs (Decidable (_ ∨ _))

/-- The memory up to the end of the box. -/
def span : ℕ := if b.Empty then 0 else b.last + 1

instance : Decidable b.Packed := inferInstanceAs (Decidable (_ ∧ _))

variable {b}

theorem pos_of_not_empty (h : ¬ b.Empty) : 0 < b.width ∧ 0 < b.height ∧ 0 < b.depth := by
  rw [Empty, not_or, not_or] at h
  omega

theorem offset_le_last (hx : x < b.width) (hy : y < b.height) (hz : z < b.depth) :
    b.offset x y z ≤ b.last := by
  have hslice := Nat.mul_le_mul_right b.slice (Nat.le_sub_one_of_lt hz)
  have hrow := Nat.mul_le_mul_right b.row (Nat.le_sub_one_of_lt hy)
  rw [last, offset, offset]
  omega

/-- **The memory that a box takes.** -/
theorem within_iff : b.Within n ↔ b.Empty ∨ b.last < n := by
  constructor
  · intro h
    refine or_iff_not_imp_left.mpr fun hempty => ?_
    obtain ⟨hwidth, hheight, hdepth⟩ := pos_of_not_empty hempty
    exact h _ (Nat.sub_one_lt hwidth.ne') _ (Nat.sub_one_lt hheight.ne') _
      (Nat.sub_one_lt hdepth.ne')
  · rintro (hempty | hlast) x hx y hy z hz
    · rcases hempty with h | h | h <;> omega
    · exact (offset_le_last hx hy hz).trans_lt hlast

theorem span_le_iff : b.span ≤ n ↔ b.Within n := by
  rw [within_iff, span]
  split
  · exact iff_of_true (Nat.zero_le n) (Or.inl ‹_›)
  · exact Nat.add_one_le_iff.trans (or_iff_right ‹_›).symm

theorem holds_last (h : ¬ b.Empty) : b.Holds b.last := by
  obtain ⟨hwidth, hheight, hdepth⟩ := pos_of_not_empty h
  exact ⟨_, Nat.sub_one_lt hwidth.ne', _, Nat.sub_one_lt hheight.ne', _, Nat.sub_one_lt hdepth.ne',
    rfl⟩

theorem Holds.le_last (h : b.Holds i) : i ≤ b.last := by
  obtain ⟨x, hx, y, hy, z, hz, rfl⟩ := h
  exact offset_le_last hx hy hz

/-- The end of a box, measured in whole rows and slices. -/
theorem last_add_one (h : ¬ b.Empty) :
    b.last + 1 = b.base + ((b.depth - 1) * b.slice + (b.height - 1) * b.row + b.width) := by
  obtain ⟨hwidth, -, -⟩ := pos_of_not_empty h
  rw [last, offset]
  omega

/-! ## Packed boxes -/

/-- The cells of a box, by slices and rows. -/
theorem cells_eq (w : ℕ) {h d : ℕ} (hh : 0 < h) (hd : 0 < d) :
    w * h * d = (d - 1) * (h * w) + (h - 1) * w + w := by
  obtain ⟨h, rfl⟩ := Nat.exists_eq_succ_of_ne_zero hh.ne'
  obtain ⟨d, rfl⟩ := Nat.exists_eq_succ_of_ne_zero hd.ne'
  rw [Nat.succ_sub_one, Nat.succ_sub_one, Nat.succ_eq_add_one, Nat.succ_eq_add_one]
  ring

/-- The gaps of a box between its slices and its rows. -/
theorem gaps_le (hb : b.Pitched) :
    (b.depth - 1) * (b.height * b.width) ≤ (b.depth - 1) * b.slice ∧
      (b.height - 1) * b.width ≤ (b.height - 1) * b.row :=
  ⟨Nat.mul_le_mul_left _ ((Nat.mul_le_mul_left _ hb.row).trans hb.slice),
    Nat.mul_le_mul_left _ hb.row⟩

/-- A box takes at least as much memory as it has cells. -/
theorem cells_le (hb : b.Pitched) (h : ¬ b.Empty) :
    b.width * b.height * b.depth ≤ b.last + 1 := by
  obtain ⟨-, hheight, hdepth⟩ := pos_of_not_empty h
  obtain ⟨hslice, hrow⟩ := gaps_le hb
  rw [last_add_one h, cells_eq b.width hheight hdepth]
  omega

/-- A box takes no more memory than it has cells if it starts at the start and has no gaps. -/
theorem last_lt_cells_iff (hb : b.Pitched) (h : ¬ b.Empty) :
    b.last < b.width * b.height * b.depth ↔ b.base = 0 ∧ b.Packed := by
  obtain ⟨-, hheight, hdepth⟩ := pos_of_not_empty h
  obtain ⟨hslice, hrow⟩ := gaps_le hb
  rw [← Nat.add_one_le_iff, last_add_one h, cells_eq b.width hheight hdepth, Packed]
  constructor
  · intro hle
    have hrows : (b.height - 1) * b.row = (b.height - 1) * b.width := by omega
    have hslices : (b.depth - 1) * b.slice = (b.depth - 1) * (b.height * b.width) := by omega
    rw [mul_eq_mul_left_iff] at hrows hslices
    rw [Nat.mul_comm b.width]
    omega
  · rintro ⟨hbase, hrows, hslices⟩
    have hrows' : (b.height - 1) * b.row = (b.height - 1) * b.width := by
      rcases hrows with hone | hrows
      · rw [hone, Nat.sub_self, Nat.zero_mul, Nat.zero_mul]
      · rw [hrows]
    have hslices' : (b.depth - 1) * b.slice = (b.depth - 1) * (b.height * b.width) := by
      rcases hslices with hone | hslices
      · rw [hone, Nat.sub_self, Nat.zero_mul, Nat.zero_mul]
      · rw [hslices, Nat.mul_comm b.width]
    omega

/-- The cells of a box, counted with wrap-around, are memory enough for it only if nothing has
wrapped around and there are no gaps. -/
theorem within_mod_iff (hb : b.Pitched) (hempty : ¬ b.Empty) {m : ℕ} (hm : 0 < m) :
    b.Within (b.width * b.height * b.depth % m) ↔
      b.base = 0 ∧ b.Packed ∧ b.width * b.height * b.depth < m := by
  rw [within_iff, or_iff_right hempty, ← and_assoc, ← last_lt_cells_iff hb hempty]
  constructor
  · intro hlast
    by_cases hlt : b.width * b.height * b.depth < m
    · rw [Nat.mod_eq_of_lt hlt] at hlast
      exact ⟨hlast, hlt⟩
    · have hcells := cells_le hb hempty
      have hmod := Nat.mod_lt (b.width * b.height * b.depth) hm
      omega
  · rintro ⟨hlast, hlt⟩
    rwa [Nat.mod_eq_of_lt hlt]

/-- A box that has no position from `n` on and every one below has at least `n` cells. -/
theorem le_cells (h : ∀ i < n, b.Holds i) : n ≤ b.width * b.height * b.depth := by
  have hsub : Finset.range n ⊆ (Finset.range b.width ×ˢ Finset.range b.height ×ˢ
      Finset.range b.depth).image fun c => b.offset c.1 c.2.1 c.2.2 := by
    intro i hi
    obtain ⟨x, hx, y, hy, z, hz, hi⟩ := h i (Finset.mem_range.mp hi)
    refine Finset.mem_image.mpr ⟨(x, y, z), ?_, hi⟩
    simp only [Finset.mem_product, Finset.mem_range]
    exact ⟨hx, hy, hz⟩
  have hcard := (Finset.card_le_card hsub).trans Finset.card_image_le
  simp only [Finset.card_product, Finset.card_range] at hcard
  rwa [Nat.mul_assoc]

/-- The cell at a position of a packed box. -/
theorem offset_div_mod (hbase : b.base = 0) (hpacked : b.Packed) (hempty : ¬ b.Empty)
    (hi : i < b.width * b.height * b.depth) :
    b.offset (i % b.width) (i / b.width % b.height) (i / b.width / b.height) = i := by
  obtain ⟨hwidth, hheight, -⟩ := pos_of_not_empty hempty
  have hslice : i / b.width / b.height * b.slice =
      i / b.width / b.height * (b.width * b.height) := by
    rcases hpacked.2 with hone | hslice
    · rw [hone, Nat.mul_one] at hi
      rw [Nat.div_div_eq_div_mul, Nat.div_eq_of_lt hi, Nat.zero_mul, Nat.zero_mul]
    · rw [hslice]
  have hrow : i / b.width % b.height * b.row = i / b.width % b.height * b.width := by
    rcases hpacked.1 with hone | hrow
    · rw [hone, Nat.mod_one, Nat.zero_mul, Nat.zero_mul]
    · rw [hrow]
  calc b.offset (i % b.width) (i / b.width % b.height) (i / b.width / b.height)
    _ = b.width * (b.height * (i / b.width / b.height) + i / b.width % b.height) +
        i % b.width := by
      rw [offset, hbase, hslice, hrow]
      ring
    _ = i := by rw [Nat.div_add_mod, Nat.div_add_mod]

/-- **A box without gaps**: it fills the memory up to `n`. -/
theorem fills_iff (hb : b.Pitched) (hempty : ¬ b.Empty) :
    (∀ i, b.Holds i ↔ i < n) ↔
      b.base = 0 ∧ b.Packed ∧ n = b.width * b.height * b.depth := by
  constructor
  · intro h
    have hle : n ≤ b.width * b.height * b.depth := le_cells fun i hi => (h i).mpr hi
    have hlast : b.last < n := (h _).mp (holds_last hempty)
    obtain ⟨hbase, hpacked⟩ := (last_lt_cells_iff hb hempty).mp (hlast.trans_le hle)
    have hcells := cells_le hb hempty
    exact ⟨hbase, hpacked, by omega⟩
  · rintro ⟨hbase, hpacked, rfl⟩ i
    obtain ⟨hwidth, hheight, hdepth⟩ := pos_of_not_empty hempty
    constructor
    · exact fun hi => hi.le_last.trans_lt ((last_lt_cells_iff hb hempty).mpr ⟨hbase, hpacked⟩)
    · intro hi
      refine ⟨_, Nat.mod_lt i hwidth, _, Nat.mod_lt _ hheight, _, ?_,
        offset_div_mod hbase hpacked hempty hi⟩
      rw [Nat.div_div_eq_div_mul]
      exact Nat.div_lt_of_lt_mul hi

/-! ## Finding a cell -/

variable (b) in
/-- The cell at a position. -/
def locate (i : ℕ) : Option (ℕ × ℕ × ℕ) :=
  let k := i - b.base
  let x := k % b.slice % b.row
  let y := k % b.slice / b.row
  let z := k / b.slice
  if b.base ≤ i ∧ x < b.width ∧ y < b.height ∧ z < b.depth then some (x, y, z) else none

/-- A cell lies in its row, and its row in its slice. -/
theorem lt_slice (hb : b.Pitched) (hx : x < b.width) (hy : y < b.height) :
    y * b.row + x < b.slice := by
  have hrow : (y + 1) * b.row ≤ b.height * b.row := Nat.mul_le_mul_right _ hy
  have hwidth := hb.row
  have hslice := hb.slice
  rw [Nat.add_mul, Nat.one_mul] at hrow
  omega

theorem locate_offset (hb : b.Pitched) (hx : x < b.width) (hy : y < b.height) (hz : z < b.depth) :
    b.locate (b.offset x y z) = some (x, y, z) := by
  have hlt := lt_slice hb hx hy
  have hxrow : x < b.row := hx.trans_le hb.row
  have hk : b.offset x y z - b.base = y * b.row + x + z * b.slice := by
    rw [offset]
    omega
  have hmod : (b.offset x y z - b.base) % b.slice = y * b.row + x := by
    rw [hk, Nat.add_mul_mod_self_right, Nat.mod_eq_of_lt hlt]
  have hdiv : (b.offset x y z - b.base) / b.slice = z := by
    rw [hk, Nat.add_mul_div_right _ _ (Nat.zero_lt_of_lt hlt), Nat.div_eq_of_lt hlt, Nat.zero_add]
  have hrow : (y * b.row + x) / b.row = y := by
    rw [Nat.add_comm, Nat.add_mul_div_right _ _ (Nat.zero_lt_of_lt hxrow), Nat.div_eq_of_lt hxrow,
      Nat.zero_add]
  have hcol : (y * b.row + x) % b.row = x := by
    rw [Nat.add_comm, Nat.add_mul_mod_self_right, Nat.mod_eq_of_lt hxrow]
  simp only [locate, hmod, hdiv, hrow, hcol]
  exact if_pos ⟨Nat.le_add_right _ _, hx, hy, hz⟩

theorem offset_of_locate (h : b.locate i = some (x, y, z)) :
    x < b.width ∧ y < b.height ∧ z < b.depth ∧ b.offset x y z = i := by
  rw [locate, Option.ite_none_right_eq_some] at h
  obtain ⟨⟨hbase, hx, hy, hz⟩, hcell⟩ := h
  rw [Option.some.injEq, Prod.mk.injEq, Prod.mk.injEq] at hcell
  obtain ⟨rfl, rfl, rfl⟩ := hcell
  refine ⟨hx, hy, hz, ?_⟩
  rw [offset, Nat.add_assoc, Nat.div_add_mod', Nat.div_add_mod']
  omega

theorem isSome_locate_iff (hb : b.Pitched) : (b.locate i).isSome ↔ b.Holds i := by
  constructor
  · intro h
    obtain ⟨⟨x, y, z⟩, hcell⟩ := Option.isSome_iff_exists.mp h
    obtain ⟨hx, hy, hz, hi⟩ := offset_of_locate hcell
    exact ⟨x, hx, y, hy, z, hz, hi⟩
  · rintro ⟨x, hx, y, hy, z, hz, rfl⟩
    rw [locate_offset hb hx hy hz]
    rfl

/-! ## Data in a box -/

variable {α : Type}

variable (b) in
/-- The memory after data has been put into the cells. -/
def blit (data : ℕ → ℕ → ℕ → α) (mem : ℕ → α) (i : ℕ) : α :=
  match b.locate i with
  | some (x, y, z) => data x y z
  | none => mem i

theorem blit_offset (hb : b.Pitched) (data : ℕ → ℕ → ℕ → α) (mem : ℕ → α) (hx : x < b.width)
    (hy : y < b.height) (hz : z < b.depth) : b.blit data mem (b.offset x y z) = data x y z := by
  rw [blit, locate_offset hb hx hy hz]

/-- The gaps are left alone, and everything outside. -/
theorem blit_of_not_holds (hb : b.Pitched) (data : ℕ → ℕ → ℕ → α) (mem : ℕ → α)
    (hi : ¬ b.Holds i) : b.blit data mem i = mem i := by
  rw [← isSome_locate_iff hb, Bool.not_eq_true, Option.isSome_eq_false_iff,
    Option.isNone_iff_eq_none] at hi
  rw [blit, hi]

/-- In the cells the memory before does not matter. -/
theorem blit_of_holds (data : ℕ → ℕ → ℕ → α) (mem mem' : ℕ → α) (hb : b.Pitched)
    (hi : b.Holds i) : b.blit data mem i = b.blit data mem' i := by
  obtain ⟨x, hx, y, hy, z, hz, rfl⟩ := hi
  rw [blit_offset hb data mem hx hy hz, blit_offset hb data mem' hx hy hz]

variable (b) in
/-- The cells have got data, and nothing else has changed. -/
structure Puts (data : ℕ → ℕ → ℕ → α) (mem after : ℕ → α) : Prop where
  cells : ∀ x < b.width, ∀ y < b.height, ∀ z < b.depth, after (b.offset x y z) = data x y z
  frame : ∀ i, ¬ b.Holds i → after i = mem i

theorem puts_iff (hb : b.Pitched) {data : ℕ → ℕ → ℕ → α} {mem after : ℕ → α} :
    b.Puts data mem after ↔ after = b.blit data mem := by
  constructor
  · intro h
    ext i
    by_cases hi : b.Holds i
    · obtain ⟨x, hx, y, hy, z, hz, rfl⟩ := hi
      rw [blit_offset hb _ _ hx hy hz]
      exact h.cells x hx y hy z hz
    · rw [blit_of_not_holds hb _ _ hi]
      exact h.frame i hi
  · rintro rfl
    exact ⟨fun x hx y hy z hz => blit_offset hb _ _ hx hy hz,
      fun i hi => blit_of_not_holds hb _ _ hi⟩

/-! ## Data by way of a linear copy

To put data into a box of a clean memory, and to copy the first `n` cells of that, comes to the same
exactly if the box fills these cells.  Constant data is enough to tell. -/

theorem copy_blit (hb : b.Pitched) (h : ∀ i, b.Holds i ↔ i < n) (clean : α)
    (data : ℕ → ℕ → ℕ → α) (mem : ℕ → α) (i : ℕ) :
    (if i < n then b.blit data (fun _ => clean) i else mem i) = b.blit data mem i := by
  by_cases hi : i < n
  · rw [if_pos hi]
    exact blit_of_holds data _ _ hb ((h i).mpr hi)
  · rw [if_neg hi, blit_of_not_holds hb data mem fun hhold => hi ((h i).mp hhold)]

theorem fills_of_copy_blit (hb : b.Pitched) {clean other : α} (hother : other ≠ clean)
    (h : ∀ (v : α) (mem : ℕ → α) (i : ℕ),
      (if i < n then b.blit (fun _ _ _ => v) (fun _ => clean) i else mem i) =
        b.blit (fun _ _ _ => v) mem i) (i : ℕ) : b.Holds i ↔ i < n := by
  refine ⟨fun hi => ?_, fun hi => ?_⟩
  · by_contra hlt
    have hsame := h other (fun _ => clean) i
    obtain ⟨x, hx, y, hy, z, hz, rfl⟩ := hi
    rw [if_neg hlt, blit_offset hb _ _ hx hy hz] at hsame
    exact hother hsame.symm
  · by_contra hhold
    have hsame := h other (fun _ => other) i
    rw [if_pos hi, blit_of_not_holds hb _ _ hhold, blit_of_not_holds hb _ _ hhold] at hsame
    exact hother hsame.symm

end Box

end Layout

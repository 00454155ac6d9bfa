import RemoteCL.Server.Instance
import Mathlib.Data.Finset.Card
import Mathlib.Data.List.GetD

/-!
# The numbering of driver objects

An ID is the position of an object in the server's table.  The table has no repetitions and only
grows at its end, so an ID keeps its meaning and an object its ID (`numbering`).

All this is about tables with at most 65536 objects.  The counter of the search loop is an
`IDType`, and in a full table it never reaches the size, so the search for an object that is not
there does not end (`getIDFor_ends_iff`).
-/

namespace RemoteCL

/-! ## The server's table -/

/-- A table without repetitions, of objects from `A`, that an ID can reach all of. -/
structure Good (A : Set Ptr) (objects : List Ptr) : Prop where
  nodup : objects.Nodup
  mem : ∀ p ∈ objects, p ∈ A
  length_le : objects.length ≤ 65536

theorem good_nil (A : Set Ptr) : Good A [] :=
  ⟨List.nodup_nil, fun _ h => absurd h List.not_mem_nil, Nat.zero_le _⟩

/-- What `findID` finds is the object's position. -/
theorem findID_eq_some {objects : List Ptr} (hlen : objects.length ≤ 65536) {p : Ptr}
    {id : IDType} (h : findID objects p = some id) : objects[id.toNat]? = some p := by
  rw [findID, List.take_of_length_le hlen, Option.map_eq_some_iff] at h
  obtain ⟨i, hi, rfl⟩ := h
  have hlt : i < objects.length := (List.idxOf?_eq_some_iff.mp hi).1
  have hget : objects[i] = p := by
    have := (List.idxOf?_eq_some_iff.mp hi).2.1
    simpa using this
  have hid : (UInt16.ofNat i).toNat = i := by
    rw [UInt16.toNat_ofNat']
    exact Nat.mod_eq_of_lt (by omega)
  rw [hid, List.getElem?_eq_getElem hlt, hget]

/-- An object that `findID` does not find is not there. -/
theorem findID_eq_none {objects : List Ptr} (hlen : objects.length ≤ 65536) {p : Ptr} :
    findID objects p = none ↔ p ∉ objects := by
  rw [findID, List.take_of_length_le hlen, Option.map_eq_none_iff, List.idxOf?_eq_none_iff]

/-- What an assignment does: the object is in the table under its ID, a new one at the end. -/
theorem assignID_cases {objects : List Ptr} (hlen : objects.length ≤ 65536) {p : Ptr}
    {id : IDType} {objects' : List Ptr} (h : assignID objects p = some (id, objects')) :
    (objects' = objects ∧ objects[id.toNat]? = some p) ∨
      (p ∉ objects ∧ objects' = objects ++ [p] ∧ id.toNat = objects.length ∧
        objects.length < 65536) := by
  rw [assignID] at h
  cases hf : findID objects p with
  | some i =>
    rw [hf] at h
    simp only [Option.some.injEq, Prod.mk.injEq] at h
    obtain ⟨rfl, rfl⟩ := h
    exact Or.inl ⟨rfl, findID_eq_some hlen hf⟩
  | none =>
    rw [hf] at h
    simp only at h
    split at h
    · exact absurd h (by simp)
    · rename_i hlt
      simp only [Option.some.injEq, Prod.mk.injEq] at h
      obtain ⟨rfl, rfl⟩ := h
      refine Or.inr ⟨(findID_eq_none hlen).mp hf, rfl, ?_, by omega⟩
      rw [UInt16.toNat_ofNat']
      exact Nat.mod_eq_of_lt (by omega)

/-- After an assignment the ID stands for the object. -/
theorem getElem?_of_assignID {objects : List Ptr} (hlen : objects.length ≤ 65536) {p : Ptr}
    {id : IDType} {objects' : List Ptr} (h : assignID objects p = some (id, objects')) :
    objects'[id.toNat]? = some p := by
  rcases assignID_cases hlen h with ⟨rfl, hget⟩ | ⟨-, rfl, hid, -⟩
  · exact hget
  · rw [hid, List.getElem?_concat_length]

/-- An assignment that does not end: the table is full, and the object is not in it. -/
theorem assignID_eq_none {objects : List Ptr} (hlen : objects.length ≤ 65536) {p : Ptr}
    (h : assignID objects p = none) : objects.length = 65536 ∧ p ∉ objects := by
  rw [assignID] at h
  cases hf : findID objects p with
  | some i =>
    rw [hf] at h
    exact absurd h (by simp)
  | none =>
    rw [hf] at h
    simp only at h
    split at h
    · exact ⟨Nat.le_antisymm hlen ‹_›, (findID_eq_none hlen).mp hf⟩
    · exact absurd h (by simp)

/-- An assignment keeps the table good. -/
theorem Good.assignID {A : Set Ptr} {objects : List Ptr} (hg : Good A objects) {p : Ptr}
    (hp : p ∈ A) {id : IDType} {objects' : List Ptr}
    (h : assignID objects p = some (id, objects')) : Good A objects' := by
  rcases assignID_cases hg.length_le h with ⟨rfl, -⟩ | ⟨hnew, rfl, -, hlt⟩
  · exact hg
  · refine ⟨?_, ?_, ?_⟩
    · rw [List.nodup_append]
      exact ⟨hg.nodup, List.nodup_singleton p, fun a ha b hb => by
        rw [List.mem_singleton] at hb
        rintro rfl
        exact hnew (hb ▸ ha)⟩
    · intro q hq
      rcases List.mem_append.mp hq with hq | hq
      · exact hg.mem q hq
      · rw [List.mem_singleton.mp hq]
        exact hp
    · rw [List.length_append, List.length_singleton]
      omega

/-- The search for an ID does not end only if the driver has named more objects than there are
IDs. -/
theorem Good.card_lt {A : Finset Ptr} {objects : List Ptr} (hg : Good A objects) {p : Ptr}
    (hp : p ∈ A) (h : RemoteCL.assignID objects p = none) : 65536 < A.card := by
  obtain ⟨hlen, hnew⟩ := assignID_eq_none hg.length_le h
  have hsub : (p :: objects).toFinset ⊆ A := by
    intro q hq
    rcases List.mem_cons.mp (List.mem_toFinset.mp hq) with rfl | hq
    · exact hp
    · exact hg.mem q hq
  have hcard := Finset.card_le_card hsub
  rw [List.toFinset_card_of_nodup (List.nodup_cons.mpr ⟨hnew, hg.nodup⟩), List.length_cons,
    hlen] at hcard
  omega

/-- The IDs of several objects, assigned one after the other. -/
def assignIDs (objects : List Ptr) : List Ptr → Option (List IDType × List Ptr)
  | [] => some ([], objects)
  | p :: ps =>
    (assignID objects p).bind fun a => (assignIDs a.2 ps).map fun b => (a.1 :: b.1, b.2)

theorem length_assignIDs {objects objects' ps : List Ptr} {ids : List IDType}
    (h : assignIDs objects ps = some (ids, objects')) : ids.length = ps.length := by
  induction ps generalizing objects objects' ids with
  | nil =>
    simp only [assignIDs, Option.some.injEq, Prod.mk.injEq] at h
    rw [← h.1]
    rfl
  | cons p ps ih =>
    simp only [assignIDs, Option.bind_eq_some_iff, Option.map_eq_some_iff] at h
    obtain ⟨a, -, ⟨ids', objs⟩, hb, hab⟩ := h
    rw [Prod.mk.injEq] at hab
    rw [← hab.1, List.length_cons, List.length_cons, ih hb]

/-! ## The search loop -/

/-- The loop of `getIDFor`, from a value of its counter on: the ID, and the table with the object;
`none` if the loop goes on for more than `fuel` steps. -/
def getIDForLoop : ℕ → List Ptr → Ptr → IDType → Option (IDType × List Ptr)
  | 0, _, _, _ => none
  | fuel + 1, objects, obj, id =>
    if id.toNat < objects.length then
      if objectAt objects id = obj then some (id, objects)
      else getIDForLoop fuel objects obj (id + 1)
    -- not assigned yet
    else some (id, objects ++ [obj])

section Loop

variable {objects : List Ptr} {obj : Ptr}

theorem getIDForLoop_succ {fuel : ℕ} {id : IDType} {r : IDType × List Ptr}
    (h : getIDForLoop fuel objects obj id = some r) :
    getIDForLoop (fuel + 1) objects obj id = some r := by
  induction fuel generalizing id with
  | zero => cases h
  | succ fuel ih =>
    rw [getIDForLoop] at h ⊢
    split at h
    · rw [if_pos ‹_›]
      split at h
      · rw [if_pos ‹_›, h]
      · rw [if_neg ‹_›, ih h]
    · rw [if_neg ‹_›, h]

theorem getIDForLoop_of_le {fuel fuel' : ℕ} (hle : fuel ≤ fuel') {id : IDType}
    {r : IDType × List Ptr} (h : getIDForLoop fuel objects obj id = some r) :
    getIDForLoop fuel' objects obj id = some r := by
  induction hle with
  | refl => exact h
  | step _ ih => exact getIDForLoop_succ ih

theorem toNat_ofNat {i : ℕ} (h : i < 65536) : (UInt16.ofNat i).toNat = i := by
  rw [UInt16.toNat_ofNat']
  exact Nat.mod_eq_of_lt h

/-- The search finds the first entry that is the object. -/
theorem findID_first {id : IDType} (h : findID objects obj = some id) :
    id.toNat < objects.length ∧ objectAt objects id = obj ∧
      ∀ i, i < id.toNat → objects.getD i 0 ≠ obj := by
  rw [findID, Option.map_eq_some_iff] at h
  obtain ⟨n, hn, rfl⟩ := h
  obtain ⟨hlt, hget, hfirst⟩ := List.idxOf?_eq_some_iff.mp hn
  have hle := hlt
  rw [List.length_take] at hle
  have hentry : ∀ i, i ≤ n → ∀ hi : i < (objects.take 65536).length,
      objects.getD i 0 = (objects.take 65536)[i] := by
    intro i hin hi
    rw [List.getElem_take, List.getD_eq_getElem _ _ (by omega)]
  have hid : (UInt16.ofNat n).toNat = n := toNat_ofNat (by omega)
  rw [objectAt, hid]
  refine ⟨by omega, ?_, fun i hi => ?_⟩
  · rw [hentry n (Nat.le_refl n) hlt, hget]
  · rw [hentry i (Nat.le_of_lt hi) (by rw [List.length_take]; omega)]
    exact hfirst i hi

/-- A search without success has seen other objects only. -/
theorem findID_other (h : findID objects obj = none) {i : ℕ} (hi : i < 65536)
    (hlt : i < objects.length) : objects.getD i 0 ≠ obj := by
  rintro rfl
  rw [findID, Option.map_eq_none_iff, List.idxOf?_eq_none_iff] at h
  refine h (List.mem_iff_getElem?.mpr ⟨i, ?_⟩)
  rw [List.getElem?_take_of_lt hi, List.getElem?_eq_getElem hlt, List.getD_eq_getElem _ _ hlt]

/-- An assignment only adds to the table, and after it the ID stands for the object. -/
theorem prefix_of_assignID {objects' : List Ptr} {id : IDType}
    (h : assignID objects obj = some (id, objects')) :
    objects <+: objects' ∧ id.toNat < objects'.length ∧ objectAt objects' id = obj := by
  rw [assignID] at h
  cases hfind : findID objects obj with
  | some i =>
    rw [hfind] at h
    simp only [Option.some.injEq, Prod.mk.injEq] at h
    obtain ⟨rfl, rfl⟩ := h
    obtain ⟨hlt, hobj, -⟩ := findID_first hfind
    exact ⟨List.prefix_rfl, hlt, hobj⟩
  | none =>
    rw [hfind] at h
    by_cases hfull : 65536 ≤ objects.length
    · exact absurd h (by simp [hfull])
    · simp only [if_neg hfull, Option.some.injEq, Prod.mk.injEq] at h
      obtain ⟨rfl, rfl⟩ := h
      have hid : (UInt16.ofNat objects.length).toNat = objects.length := toNat_ofNat (by omega)
      refine ⟨List.prefix_append _ _, ?_, ?_⟩
      · rw [hid, List.length_append, List.length_singleton]
        omega
      · rw [objectAt, hid, List.getD_eq_getElem?_getD, List.getElem?_concat_length,
          Option.getD_some]

/-- An entry stays where it is. -/
theorem objectAt_of_prefix {objects' : List Ptr} {id : IDType} (h : objects <+: objects')
    (hid : id.toNat < objects.length) : objectAt objects' id = objectAt objects id := by
  obtain ⟨more, rfl⟩ := h
  rw [objectAt, objectAt, List.getD_append _ _ _ _ hid]

/-- After several assignments the IDs stand for the objects. -/
theorem prefix_of_assignIDs {objects objects' ps : List Ptr} {ids : List IDType}
    (h : assignIDs objects ps = some (ids, objects')) :
    objects <+: objects' ∧ ids.map (objectAt objects') = ps := by
  induction ps generalizing objects objects' ids with
  | nil =>
    simp only [assignIDs, Option.some.injEq, Prod.mk.injEq] at h
    obtain ⟨rfl, rfl⟩ := h
    exact ⟨List.prefix_rfl, rfl⟩
  | cons p ps ih =>
    simp only [assignIDs, Option.bind_eq_some_iff, Option.map_eq_some_iff] at h
    obtain ⟨⟨id, objs⟩, hid, ⟨ids', objs'⟩, hids, heq⟩ := h
    rw [Prod.mk.injEq] at heq
    obtain ⟨rfl, rfl⟩ := heq
    obtain ⟨hgrow, hlt, hobj⟩ := prefix_of_assignID hid
    obtain ⟨hmore, hmap⟩ := ih hids
    refine ⟨hgrow.trans hmore, ?_⟩
    rw [List.map_cons, hmap, objectAt_of_prefix hmore hlt, hobj]

/-- The counter passes the entries that are other objects. -/
theorem getIDForLoop_skip {n : ℕ} (hn : n < 65536) (hle : n ≤ objects.length)
    (hother : ∀ i, i < n → objects.getD i 0 ≠ obj) {r : IDType × List Ptr} {fuel : ℕ}
    (h : getIDForLoop fuel objects obj (UInt16.ofNat n) = some r) :
    getIDForLoop (fuel + n) objects obj 0 = some r := by
  induction n generalizing fuel with
  | zero => exact h
  | succ n ih =>
    have hget : (UInt16.ofNat n).toNat = n := toNat_ofNat (by omega)
    have hnext : UInt16.ofNat n + 1 = UInt16.ofNat (n + 1) := by
      rw [← UInt16.toNat_inj, UInt16.toNat_add, hget, toNat_ofNat hn]
      exact Nat.mod_eq_of_lt hn
    rw [show fuel + (n + 1) = fuel + 1 + n by omega]
    refine ih (by omega) (by omega) (fun i hi => hother i (by omega)) ?_
    rw [getIDForLoop, if_pos (by omega), objectAt, hget, if_neg (hother n (by omega)), hnext]
    exact h

/-- In a table that fills all IDs, the counter wraps around. -/
theorem getIDForLoop_eq_none (hlen : 65536 ≤ objects.length) (hnew : findID objects obj = none)
    (fuel : ℕ) (id : IDType) : getIDForLoop fuel objects obj id = none := by
  induction fuel generalizing id with
  | zero => rfl
  | succ fuel ih =>
    have hlt : id.toNat < objects.length := (UInt16.toNat_lt id).trans_le hlen
    have hother : objectAt objects id ≠ obj := findID_other hnew (UInt16.toNat_lt id) hlt
    rw [getIDForLoop, if_pos hlt, if_neg hother]
    exact ih (id + 1)

/-- The loop comes to what `assignID` says. -/
theorem exists_getIDForLoop_iff {r : IDType × List Ptr} :
    (∃ fuel, getIDForLoop fuel objects obj 0 = some r) ↔ assignID objects obj = some r := by
  -- the loop has one result, so it is enough to find one
  suffices hloop : ∀ r', assignID objects obj = some r' →
      ∃ fuel, getIDForLoop fuel objects obj 0 = some r' by
    refine ⟨fun ⟨fuel, hfuel⟩ => ?_, hloop r⟩
    cases hassign : assignID objects obj with
    | none =>
      rw [assignID] at hassign
      cases hfind : findID objects obj with
      | some id => simp only [hfind, reduceCtorEq] at hassign
      | none =>
        simp only [hfind] at hassign
        split at hassign
        · rw [getIDForLoop_eq_none ‹_› hfind] at hfuel
          cases hfuel
        · cases hassign
    | some r' =>
      obtain ⟨fuel', hfuel'⟩ := hloop r' hassign
      have h₁ := getIDForLoop_of_le (Nat.le_max_left fuel fuel') hfuel
      rw [getIDForLoop_of_le (Nat.le_max_right fuel fuel') hfuel'] at h₁
      exact h₁
  intro r' hassign
  rw [assignID] at hassign
  cases hfind : findID objects obj with
  | some id =>
    simp only [hfind, Option.some.injEq] at hassign
    obtain ⟨hlt, hget, hfirst⟩ := findID_first hfind
    have hfound : getIDForLoop 1 objects obj id = some (id, objects) := by
      rw [getIDForLoop, if_pos hlt, if_pos hget]
    rw [← hassign]
    refine ⟨1 + id.toNat,
      getIDForLoop_skip (UInt16.toNat_lt id) (Nat.le_of_lt hlt) hfirst ?_⟩
    rw [UInt16.ofNat_toNat]
    exact hfound
  | none =>
    simp only [hfind] at hassign
    split at hassign
    · cases hassign
    · rename_i hlt
      have hlen : objects.length < 65536 := Nat.not_le.mp hlt
      have hadded : getIDForLoop 1 objects obj (UInt16.ofNat objects.length) =
          some (UInt16.ofNat objects.length, objects ++ [obj]) := by
        rw [getIDForLoop, if_neg (by rw [toNat_ofNat hlen]; exact Nat.lt_irrefl _)]
      rw [← Option.some.inj hassign]
      exact ⟨_, getIDForLoop_skip hlen (Nat.le_refl _)
        (fun i hi => findID_other hfind (hi.trans hlen) hi) hadded⟩

end Loop

/-! ## Full tables -/

/-- The tables that a server can have. -/
inductive ReachableTable : List Ptr → Prop
  | empty : ReachableTable []
  | assigned {objects objects' : List Ptr} {obj : Ptr} {id : IDType}
      (h : ReachableTable objects) (ha : assignID objects obj = some (id, objects')) :
      ReachableTable objects'

theorem ReachableTable.good {objects : List Ptr} (h : ReachableTable objects) :
    Good Set.univ objects := by
  induction h with
  | empty => exact good_nil _
  | assigned _ ha ih => exact ih.assignID trivial ha

/-- **Assigning an ID finishes** exactly if there is room in the table, or the object is in it. -/
theorem getIDFor_ends_iff {objects : List Ptr} (h : ReachableTable objects) (obj : Ptr) :
    (∃ fuel id objects', getIDForLoop fuel objects obj 0 = some (id, objects') ∧
      objectAt objects' id = obj) ↔ objects.length < 65536 ∨ obj ∈ objects := by
  have hlen := h.good.length_le
  constructor
  · rintro ⟨fuel, id, objects', hloop, -⟩
    rcases assignID_cases hlen (exists_getIDForLoop_iff.mp ⟨fuel, hloop⟩) with
      ⟨-, hget⟩ | ⟨-, -, -, hlt⟩
    · exact Or.inr (List.mem_of_getElem? hget)
    · exact Or.inl hlt
  · intro hroom
    obtain ⟨⟨id, objects'⟩, hassign⟩ : ∃ r, assignID objects obj = some r := by
      cases hassign : assignID objects obj with
      | some r => exact ⟨r, rfl⟩
      | none =>
        obtain ⟨hfull, hnew⟩ := assignID_eq_none hlen hassign
        exact (hroom.elim (fun hlt => absurd hfull (Nat.ne_of_lt hlt)) fun hmem => absurd hmem hnew)
    obtain ⟨fuel, hloop⟩ := exists_getIDForLoop_iff.mpr hassign
    refine ⟨fuel, id, objects', hloop, ?_⟩
    rw [objectAt, List.getD_eq_getElem?_getD, getElem?_of_assignID hlen hassign, Option.getD_some]

/-- After the objects 0, 1, 2 and so on comes a new one. -/
theorem findID_range {n : ℕ} (hn : n ≤ 65536) :
    findID ((List.range n).map UInt64.ofNat) (UInt64.ofNat n) = none := by
  rw [findID_eq_none (by rw [List.length_map, List.length_range]; exact hn), List.mem_map]
  rintro ⟨i, hi, heq⟩
  rw [List.mem_range] at hi
  have := congrArg UInt64.toNat heq
  rw [UInt64.toNat_ofNat', UInt64.toNat_ofNat'] at this
  omega

/-- The table after the objects 0, 1, 2 and so on. -/
theorem reachableTable_range {n : ℕ} (hn : n ≤ 65536) :
    ReachableTable ((List.range n).map UInt64.ofNat) := by
  induction n with
  | zero => exact .empty
  | succ n ih =>
    refine .assigned (ih (by omega))
      (?_ : assignID _ (UInt64.ofNat n) = some (UInt16.ofNat n, _))
    rw [assignID, findID_range (by omega)]
    simp only [List.length_map, List.length_range, if_neg (show ¬ 65536 ≤ n by omega),
      List.range_succ, List.map_append, List.map_cons, List.map_nil]

/-- After 65536 objects there is no ID for a new one. -/
theorem assignID_range :
    assignID ((List.range 65536).map UInt64.ofNat) (UInt64.ofNat 65536) = none := by
  rw [assignID, findID_range (Nat.le_refl 65536)]
  exact if_pos (by rw [List.length_map, List.length_range])

/-- A new object after three others, and one of these. -/
theorem getIDFor_ends_iff_three :
    (∃ fuel id objects', getIDForLoop fuel ((List.range 3).map UInt64.ofNat) 7 0 =
        some (id, objects') ∧ objectAt objects' id = 7) ∧
      ∃ fuel id objects', getIDForLoop fuel ((List.range 3).map UInt64.ofNat) 1 0 =
        some (id, objects') ∧ objectAt objects' id = 1 := by
  have hreach := reachableTable_range (n := 3) (by decide)
  exact ⟨(getIDFor_ends_iff hreach 7).mpr (Or.inl (by decide)),
    (getIDFor_ends_iff hreach 1).mpr (Or.inr (by decide))⟩

/-- The server has 65536 objects, and gets another one. -/
theorem getIDFor_spins :
    ¬ ∀ objects, ReachableTable objects → ∀ obj, ∃ fuel id objects',
      getIDForLoop fuel objects obj 0 = some (id, objects') ∧ objectAt objects' id = obj := by
  intro h
  obtain ⟨fuel, id, objects', hloop, -⟩ :=
    h _ (reachableTable_range (Nat.le_refl 65536)) (UInt64.ofNat 65536)
  have hassign := exists_getIDForLoop_iff.mp ⟨fuel, hloop⟩
  rw [assignID_range] at hassign
  cases hassign

/-! ## Runs -/

/-- The operations of the table. -/
inductive TableCall where
  | getIDFor (obj : Ptr)
  | getObj (id : IDType)
  deriving DecidableEq

/-- An operation and its result. -/
inductive TableEvent where
  | assigned (obj : Ptr) (id : IDType)
  | retrieved (id : IDType) (obj : Ptr)
  deriving DecidableEq

/-- An operation on a table; `none` if it does not end. -/
def TableCall.run (objects : List Ptr) : TableCall → Option (TableEvent × List Ptr)
  | getIDFor obj => (assignID objects obj).map fun a => (.assigned obj a.1, a.2)
  | getObj id => some (.retrieved id (objectAt objects id), objects)

/-- A sequence of operations. -/
def runTable : List Ptr → List TableCall → Option (List TableEvent × List Ptr)
  | objects, [] => some ([], objects)
  | objects, c :: cs =>
    (c.run objects).bind fun r => (runTable r.2 cs).map fun q => (r.1 :: q.1, q.2)

/-- The pointers that are passed to `getIDFor`. -/
def numbered (cs : List TableCall) : Finset Ptr :=
  (cs.filterMap fun
    | .getIDFor obj => some obj
    | .getObj _ => none).toFinset

/-- What a numbering is: after some operations, and for the table that they leave. -/
structure Numbering (evs : List TableEvent) (objects : List Ptr) : Prop where
  nodup : objects.Nodup
  /-- Equal pointers have equal IDs, and distinct pointers have distinct IDs. -/
  injective : ∀ obj id obj' id', .assigned obj id ∈ evs → .assigned obj' id' ∈ evs →
    (obj = obj' ↔ id = id')
  /-- An ID keeps its meaning. -/
  stable : ∀ obj id, .assigned obj id ∈ evs → objectAt objects id = obj
  /-- An ID stands for its object, and one that has not been assigned for a null pointer. -/
  retrieved : ∀ before id obj after, evs = before ++ .retrieved id obj :: after →
    (∀ obj', .assigned obj' id ∈ before → obj = obj') ∧
      ((∀ obj', .assigned obj' id ∉ before) → obj = 0)

/-- The invariant of a run: the IDs that have been assigned are the positions in the table. -/
structure Assigned (A : Set Ptr) (evs : List TableEvent) (objects : List Ptr) : Prop where
  good : Good A objects
  mem_iff : ∀ obj id, .assigned obj id ∈ evs ↔ objects[id.toNat]? = some obj
  retrieved : ∀ before id obj after, evs = before ++ .retrieved id obj :: after →
    (∀ obj', .assigned obj' id ∈ before → obj = obj') ∧
      ((∀ obj', .assigned obj' id ∉ before) → obj = 0)

theorem assigned_nil (A : Set Ptr) : Assigned A [] [] where
  good := good_nil A
  mem_iff _ _ := iff_of_false List.not_mem_nil (by simp)
  retrieved before _ _ _ h := absurd h.symm (by simp)

/-- Further operations that are not retrievals do not change what is known about those. -/
theorem retrieved_append {evs : List TableEvent} {ev : TableEvent}
    (h : ∀ before id obj after, evs = before ++ .retrieved id obj :: after →
      (∀ obj', .assigned obj' id ∈ before → obj = obj') ∧
        ((∀ obj', .assigned obj' id ∉ before) → obj = 0))
    (hev : ∀ id obj, ev = .retrieved id obj →
      (∀ obj', .assigned obj' id ∈ evs → obj = obj') ∧
        ((∀ obj', .assigned obj' id ∉ evs) → obj = 0)) :
    ∀ before id obj after, evs ++ [ev] = before ++ .retrieved id obj :: after →
      (∀ obj', .assigned obj' id ∈ before → obj = obj') ∧
        ((∀ obj', .assigned obj' id ∉ before) → obj = 0) := by
  intro before id obj after heq
  rcases List.eq_nil_or_concat after with rfl | ⟨after, last, rfl⟩
  · obtain ⟨rfl, hlast⟩ := List.append_inj' heq rfl
    exact hev id obj (List.cons.inj hlast).1
  · have hsplit : evs ++ [ev] = (before ++ .retrieved id obj :: after) ++ [last] := by
      rw [heq, List.concat_eq_append, List.append_assoc, List.cons_append]
    exact h before id obj after (List.append_inj_left' hsplit rfl)

/-- One operation. -/
theorem Assigned.step {A : Set Ptr} {evs : List TableEvent} {objects : List Ptr}
    (h : Assigned A evs objects) {c : TableCall} (hc : ∀ obj, c = .getIDFor obj → obj ∈ A)
    {ev : TableEvent} {objects' : List Ptr} (hrun : c.run objects = some (ev, objects')) :
    Assigned A (evs ++ [ev]) objects' := by
  cases c with
  | getIDFor obj =>
    rw [TableCall.run, Option.map_eq_some_iff] at hrun
    obtain ⟨⟨id, objs⟩, hassign, hpair⟩ := hrun
    rw [Prod.mk.injEq] at hpair
    obtain ⟨rfl, rfl⟩ := hpair
    have hget := getElem?_of_assignID h.good.length_le hassign
    refine ⟨h.good.assignID (hc obj rfl) hassign, fun obj' id' => ?_,
      retrieved_append h.retrieved fun _ _ heq => nomatch heq⟩
    rw [List.mem_append, h.mem_iff, List.mem_singleton, TableEvent.assigned.injEq]
    rcases assignID_cases h.good.length_le hassign with ⟨rfl, -⟩ | ⟨-, rfl, hid, -⟩
    · refine or_iff_left_of_imp ?_
      rintro ⟨rfl, rfl⟩
      exact hget
    · show objects[id'.toNat]? = some obj' ∨ obj' = obj ∧ id' = id ↔
        (objects ++ [obj])[id'.toNat]? = some obj'
      rcases Nat.lt_trichotomy id'.toNat objects.length with hlt | heq | hgt
      · rw [List.getElem?_append_left hlt]
        refine or_iff_left_of_imp ?_
        rintro ⟨-, rfl⟩
        exact absurd hid (Nat.ne_of_lt hlt)
      · obtain rfl : id' = id := UInt16.toNat_inj.mp (heq.trans hid.symm)
        rw [hget, List.getElem?_eq_none (Nat.le_of_eq hid.symm), Option.some.injEq]
        exact ⟨fun hor => hor.elim (fun hnone => nomatch hnone) fun heq => heq.1.symm,
          fun heq => Or.inr ⟨heq.symm, rfl⟩⟩
      · have hlen : (objects ++ [obj]).length ≤ id'.toNat := by
          rw [List.length_append, List.length_singleton]
          exact hgt
        rw [List.getElem?_eq_none (Nat.le_of_lt hgt), List.getElem?_eq_none hlen]
        refine iff_of_false ?_ (by simp)
        rintro (hnone | ⟨-, rfl⟩)
        · cases hnone
        · omega
  | getObj id =>
    rw [TableCall.run, Option.some.injEq, Prod.mk.injEq] at hrun
    obtain ⟨rfl, rfl⟩ := hrun
    refine ⟨h.good, fun obj' id' => ?_, retrieved_append h.retrieved ?_⟩
    · rw [List.mem_append, h.mem_iff, List.mem_singleton]
      exact or_iff_left_of_imp fun heq => nomatch heq
    · rintro _ _ ⟨⟩
      simp only [h.mem_iff, objectAt, List.getD_eq_getElem?_getD]
      refine ⟨fun obj' hget => by rw [hget, Option.getD_some], fun hnone => ?_⟩
      cases hget : objects[id.toNat]? with
      | none => rfl
      | some obj' => exact absurd hget (hnone obj')

/-- A run, from any point on. -/
theorem Assigned.run {A : Finset Ptr} (hcard : A.card ≤ 65536) {evs : List TableEvent}
    {objects : List Ptr} (h : Assigned A evs objects) {cs : List TableCall}
    (hcs : numbered cs ⊆ A) :
    ∃ evs' objects', runTable objects cs = some (evs', objects') ∧ objects <+: objects' ∧
      Assigned A (evs ++ evs') objects' := by
  induction cs generalizing evs objects with
  | nil => exact ⟨[], objects, rfl, List.prefix_rfl, by rwa [List.append_nil]⟩
  | cons c cs ih =>
    have hc : ∀ obj, c = .getIDFor obj → obj ∈ A := by
      rintro obj rfl
      refine hcs ?_
      rw [numbered, List.mem_toFinset]
      exact List.mem_cons_self
    have htail : numbered cs ⊆ A := by
      refine subset_trans (fun obj hobj => ?_) hcs
      rw [numbered, List.mem_toFinset, List.mem_filterMap] at hobj ⊢
      obtain ⟨c', hc', hsome⟩ := hobj
      exact ⟨c', List.mem_cons_of_mem c hc', hsome⟩
    obtain ⟨ev, objects₁, hrun, hle⟩ :
        ∃ ev objects₁, c.run objects = some (ev, objects₁) ∧ objects <+: objects₁ := by
      cases c with
      | getObj id => exact ⟨_, objects, rfl, List.prefix_rfl⟩
      | getIDFor obj =>
        cases hassign : assignID objects obj with
        | none =>
          exact absurd (h.good.card_lt (hc obj rfl) hassign) (Nat.not_lt.mpr hcard)
        | some a =>
          refine ⟨_, a.2, by rw [TableCall.run, hassign]; rfl, ?_⟩
          rcases assignID_cases h.good.length_le hassign with ⟨heq, -⟩ | ⟨-, heq, -⟩
          · rw [heq]
          · rw [heq]
            exact List.prefix_append _ _
    obtain ⟨evs', objects', hrest, hle', h'⟩ := ih (h.step hc hrun) htail
    refine ⟨ev :: evs', objects', ?_, hle.trans hle', ?_⟩
    · rw [runTable, hrun, Option.bind_some, hrest, Option.map_some]
    · rwa [List.append_assoc, List.singleton_append] at h'

/-- What has been assigned is a numbering. -/
theorem Assigned.numbering {A : Set Ptr} {evs : List TableEvent} {objects : List Ptr}
    (h : Assigned A evs objects) : Numbering evs objects where
  nodup := h.good.nodup
  injective obj id obj' id' hev hev' := by
    rw [h.mem_iff] at hev hev'
    constructor
    · rintro rfl
      refine UInt16.toNat_inj.mp ?_
      have hlt : id.toNat < objects.length := (List.getElem?_eq_some_iff.mp hev).1
      exact (List.getElem?_inj hlt h.good.nodup).mp (hev.trans hev'.symm)
    · rintro rfl
      exact Option.some.inj (hev.symm.trans hev')
  stable obj id hev := by
    rw [objectAt, List.getD_eq_getElem?_getD, (h.mem_iff obj id).mp hev, Option.getD_some]
  retrieved := h.retrieved

/-- **The numbering**: with at most 65536 distinct pointers every sequence of operations ends, the
table is a numbering of the pointers at any time, and it has only grown at its end. -/
theorem runTable_numbering (cs : List TableCall) (hcs : (numbered cs).card ≤ 65536) (k : ℕ) :
    ∃ evs objects evs' objects', runTable [] (cs.take k) = some (evs, objects) ∧
      Numbering evs objects ∧ runTable objects (cs.drop k) = some (evs', objects') ∧
      Numbering (evs ++ evs') objects' ∧ objects <+: objects' := by
  have hsub : ∀ cs' : List TableCall, cs' ⊆ cs → numbered cs' ⊆ numbered cs := by
    intro cs' hcs' obj hobj
    rw [numbered, List.mem_toFinset, List.mem_filterMap] at hobj ⊢
    obtain ⟨c, hc, hsome⟩ := hobj
    exact ⟨c, hcs' hc, hsome⟩
  obtain ⟨evs, objects, hrun, -, h⟩ :=
    (assigned_nil _).run hcs (hsub (cs.take k) (List.take_subset k cs))
  obtain ⟨evs', objects', hrun', hle, h'⟩ := h.run hcs (hsub (cs.drop k) (List.drop_subset k cs))
  exact ⟨evs, objects, evs', objects', hrun, h.numbering, hrun', h'.numbering, hle⟩

/-- Two objects, one of them twice, and three retrievals. -/
theorem runTable_numbering_small :
    (numbered [.getIDFor 7, .getObj 1, .getIDFor 8, .getIDFor 7, .getObj 1, .getObj 0]).card ≤
        65536 ∧
      ∃ evs objects evs' objects',
        runTable [] [.getIDFor 7, .getObj 1] = some (evs, objects) ∧ Numbering evs objects ∧
        runTable objects [.getIDFor 8, .getIDFor 7, .getObj 1, .getObj 0] = some (evs', objects') ∧
        Numbering (evs ++ evs') objects' ∧ objects <+: objects' :=
  have hcard : (numbered
      [.getIDFor 7, .getObj 1, .getIDFor 8, .getIDFor 7, .getObj 1, .getObj 0]).card ≤ 65536 := by
    decide
  ⟨hcard, runTable_numbering _ hcard 2⟩

end RemoteCL

import Mathlib.Data.List.Basic
import Mathlib.Order.Basic
import Mathlib.Data.Nat.Init
import Mathlib.Logic.Relation

/-!
# Items that wait for each other

Items are completed one after the other.  Some are completed from outside, and each of the others
has a list of items that it waits for, and is completed by itself when they are.  An item that waits
for an item to be completed from outside, directly or through others, is blocked.

If items wait for earlier ones only, then the items that are not blocked are completed without
anything from outside (`exists_ticks`), and those that are blocked stay so (`Tick.blocked_iff`).
-/

namespace Dependencies

/-- An item: `none` for one that is completed from outside, and otherwise what it waits for. -/
structure Item where
  waitList : Option (List ℕ)
  complete : Bool
  deriving DecidableEq

def Pending (xs : List Item) (i : ℕ) : Prop := ∃ item, xs[i]? = some item ∧ item.complete = false

/-- The item waits for an item from outside. -/
inductive Blocked (xs : List Item) : ℕ → Prop
  | outside {i : ℕ} (h : xs[i]? = some ⟨none, false⟩) : Blocked xs i
  | waits {i w : ℕ} {ws : List ℕ} (h : xs[i]? = some ⟨some ws, false⟩) (hw : w ∈ ws)
      (hblocked : Blocked xs w) : Blocked xs i

/-- Items wait for earlier ones only. -/
def Ordered (xs : List Item) : Prop :=
  ∀ (i : ℕ) (ws : List ℕ) (b : Bool), xs[i]? = some ⟨some ws, b⟩ → ∀ w ∈ ws, w < i

/-- An item is completed by itself. -/
inductive Tick : List Item → List Item → Prop
  | mk {xs : List Item} {i : ℕ} {ws : List ℕ} (h : xs[i]? = some ⟨some ws, false⟩)
      (hws : ∀ w ∈ ws, ¬ Pending xs w) : Tick xs (xs.set i ⟨some ws, true⟩)

variable {xs ys : List Item} {i j : ℕ}

theorem Blocked.pending (h : Blocked xs i) : Pending xs i := by
  cases h with
  | outside h => exact ⟨_, h, rfl⟩
  | waits h => exact ⟨_, h, rfl⟩

/-- What is there after an item has been completed. -/
theorem getElem?_set_complete {ws : List ℕ} (h : xs[i]? = some ⟨some ws, false⟩) (j : ℕ) :
    (xs.set i ⟨some ws, true⟩)[j]? = if j = i then some ⟨some ws, true⟩ else xs[j]? := by
  have hi : i < xs.length := (List.getElem?_eq_some_iff.mp h).1
  by_cases hj : j = i
  · rw [if_pos hj, hj, List.getElem?_set_self hi]
  · rw [if_neg hj, List.getElem?_set_ne (Ne.symm hj)]

theorem Tick.pending (h : Tick xs ys) (hj : Pending ys j) : Pending xs j := by
  obtain ⟨h, -⟩ := h
  obtain ⟨item, hitem, hcomplete⟩ := hj
  rw [getElem?_set_complete h] at hitem
  split at hitem
  · rw [← Option.some.inj hitem] at hcomplete
    cases hcomplete
  · exact ⟨item, hitem, hcomplete⟩

theorem Tick.ordered (h : Tick xs ys) (hxs : Ordered xs) : Ordered ys := by
  obtain @⟨i, ws, h, -⟩ := h
  intro j ws' b hj
  rw [getElem?_set_complete h] at hj
  split at hj
  · rename_i heq
    rw [heq]
    obtain ⟨hws, -⟩ := Item.mk.inj (Option.some.inj hj)
    rw [← Option.some.inj hws]
    exact hxs i ws false h
  · exact hxs j ws' b hj

theorem Tick.waitList (h : Tick xs ys) {wl : Option (List ℕ)} {b : Bool}
    (hj : xs[j]? = some ⟨wl, b⟩) : ∃ b', ys[j]? = some ⟨wl, b'⟩ := by
  obtain @⟨i, ws, h, -⟩ := h
  rw [getElem?_set_complete h]
  split
  · rename_i heq
    rw [heq] at hj
    cases h.symm.trans hj
    exact ⟨_, rfl⟩
  · exact ⟨b, hj⟩

/-- What is completed by itself does not change what is blocked. -/
theorem Tick.blocked_iff (h : Tick xs ys) : Blocked ys j ↔ Blocked xs j := by
  obtain @⟨i, ws, h, hws⟩ := h
  have hget := getElem?_set_complete h
  constructor
  · intro hj
    induction hj with
    | outside hj =>
      rw [hget] at hj
      split at hj
      · cases hj
      · exact .outside hj
    | waits hj hw _ ih =>
      rw [hget] at hj
      split at hj
      · cases hj
      · exact .waits hj hw ih
  · intro hj
    have hne {j : ℕ} (hj : Blocked xs j) : j ≠ i := by
      rintro rfl
      cases hj with
      | outside hj => cases h.symm.trans hj
      | waits hj hw hblocked =>
        cases h.symm.trans hj
        exact hws _ hw hblocked.pending
    induction hj with
    | outside hj =>
      exact .outside (by rw [hget, if_neg (hne (.outside hj)), hj])
    | waits hj hw hblocked ih =>
      exact .waits (by rw [hget, if_neg (hne (.waits hj hw hblocked)), hj]) hw ih

/-- Items are completed by themselves, one after the other. -/
def Ticks (xs ys : List Item) : Prop := Relation.ReflTransGen Tick xs ys

theorem Ticks.pending (h : Ticks xs ys) (hj : Pending ys j) : Pending xs j := by
  induction h with
  | refl => exact hj
  | tail _ h ih => exact ih (h.pending hj)

theorem Ticks.ordered (h : Ticks xs ys) (hxs : Ordered xs) : Ordered ys := by
  induction h with
  | refl => exact hxs
  | tail _ h ih => exact h.ordered ih

theorem Ticks.blocked_iff (h : Ticks xs ys) : Blocked ys j ↔ Blocked xs j := by
  induction h with
  | refl => rfl
  | tail _ h ih => exact h.blocked_iff.trans ih

theorem Ticks.waitList (h : Ticks xs ys) {wl : Option (List ℕ)} {b : Bool}
    (hj : xs[j]? = some ⟨wl, b⟩) : ∃ b', ys[j]? = some ⟨wl, b'⟩ := by
  induction h with
  | refl => exact ⟨b, hj⟩
  | tail _ h ih =>
    obtain ⟨b', hb'⟩ := ih
    exact h.waitList hb'

/-- Several items are completed, if each of them can be. -/
theorem exists_ticks_of_forall {is : List ℕ}
    (h : ∀ i ∈ is, ∀ ys, Ticks xs ys → ∃ zs, Ticks ys zs ∧ ¬ Pending zs i) :
    ∃ ys, Ticks xs ys ∧ ∀ i ∈ is, ¬ Pending ys i := by
  induction is with
  | nil => exact ⟨xs, .refl, fun i hi => absurd hi List.not_mem_nil⟩
  | cons i is ih =>
    obtain ⟨ys, hys, hdone⟩ := ih fun j hj => h j (List.mem_cons_of_mem _ hj)
    obtain ⟨zs, hzs, hi⟩ := h i List.mem_cons_self ys hys
    refine ⟨zs, hys.trans hzs, fun j hj => ?_⟩
    rcases List.mem_cons.mp hj with rfl | hj
    · exact hi
    · exact fun hpending => hdone j hj (hzs.pending hpending)

/-- What is not blocked is completed sooner or later. -/
theorem exists_ticks (hxs : Ordered xs) (hi : ¬ Blocked xs i) :
    ∃ ys, Ticks xs ys ∧ ¬ Pending ys i := by
  induction i using Nat.strongRecOn generalizing xs with
  | _ i ih =>
    by_cases hpending : Pending xs i
    swap
    · exact ⟨xs, .refl, hpending⟩
    obtain ⟨⟨_ | ws, b⟩, hitem, rfl⟩ := hpending
    · exact absurd (.outside hitem) hi
    have hearlier : ∀ w ∈ ws, ∀ ys, Ticks xs ys → ∃ zs, Ticks ys zs ∧ ¬ Pending zs w := by
      intro w hw ys hys
      refine ih w (hxs i ws false hitem w hw) (hys.ordered hxs) ?_
      rw [hys.blocked_iff]
      exact fun hblocked => hi (.waits hitem hw hblocked)
    obtain ⟨ys, hys, hdone⟩ := exists_ticks_of_forall hearlier
    obtain ⟨b, hb⟩ := hys.waitList hitem
    cases b with
    | false =>
      refine ⟨_, hys.tail (.mk hb hdone), fun ⟨item, hset, hcomplete⟩ => ?_⟩
      rw [getElem?_set_complete hb, if_pos rfl] at hset
      rw [← Option.some.inj hset] at hcomplete
      cases hcomplete
    | true =>
      refine ⟨ys, hys, fun ⟨item, hset, hcomplete⟩ => ?_⟩
      rw [← Option.some.inj (hb.symm.trans hset)] at hcomplete
      cases hcomplete

end Dependencies

/-
The functions of the standard `slices` package that sort and compact, and loops
over a slice that a callback may stop.

`slices.SortFunc` is not stable and promises a sorted permutation only for a
comparator that is a strict weak ordering.  `SortFunc` carries exactly that
promise, so nothing proved from it depends on the sorting algorithm.
-/

import Mathlib.Data.List.Sort
import Mathlib.Order.Compare

namespace NamespaceLister.Library

universe u

/-- `slices.SortFunc`, with what its documentation promises. -/
structure SortFunc (α : Type u) where
  sort : (α → α → Ordering) → List α → List α
  perm : ∀ cmp items, (sort cmp items).Perm items
  sorted : ∀ (cmp : α → α → Ordering) [Std.TransCmp cmp] (items : List α),
    (sort cmp items).Pairwise (fun left right => (cmp left right).isLE = true)

def SortFunc.byInsertion (α : Type u) : SortFunc α :=
  { sort := fun cmp items =>
      items.insertionSort (fun left right => (cmp left right).isLE = true)
    perm := fun _cmp items => List.perm_insertionSort _ items
    sorted := by
      intro cmp _lawful items
      have total : Std.Total (fun left right => (cmp left right).isLE = true) :=
        ⟨fun left right => by
          have swapped : cmp right left = (cmp left right).swap := Std.OrientedCmp.eq_swap
          rw [swapped]
          cases cmp left right <;> simp⟩
      have transitive : IsTrans α (fun left right => (cmp left right).isLE = true) :=
        ⟨fun _left _middle _right first second => Std.TransCmp.isLE_trans first second⟩
      exact List.pairwise_insertionSort _ items }

/-- What `slices.SortFunc` asks of a comparator: a strict weak ordering, in which
zero stands for equal or incomparable. -/
structure StrictWeakOrdering {α : Type u} (cmp : α → α → Ordering) : Prop where
  irreflexive : ∀ item, cmp item item ≠ .lt
  converse : ∀ left right, cmp left right = .gt ↔ cmp right left = .lt
  transitive : ∀ left middle right,
    cmp left middle = .lt → cmp middle right = .lt → cmp left right = .lt
  incomparable : ∀ left middle right,
    cmp left middle = .eq → cmp middle right = .eq → cmp left right = .eq

private theorem StrictWeakOrdering.oriented {α : Type u} {cmp : α → α → Ordering}
    (weak : StrictWeakOrdering cmp) (left right : α) :
    cmp left right = (cmp right left).swap := by
  cases order : cmp right left with
  | lt => exact (weak.converse left right).mpr order
  | gt => exact (weak.converse right left).mp order
  | eq =>
      cases reversed : cmp left right with
      | eq => rfl
      | lt =>
          rw [(weak.converse right left).mpr reversed] at order
          cases order
      | gt =>
          rw [(weak.converse left right).mp reversed] at order
          cases order

private theorem StrictWeakOrdering.isLE_trans {α : Type u} {cmp : α → α → Ordering}
    (weak : StrictWeakOrdering cmp) {left middle right : α}
    (first : (cmp left middle).isLE = true) (second : (cmp middle right).isLE = true) :
    (cmp left right).isLE = true := by
  cases order : cmp left right with
  | lt => rfl
  | eq => rfl
  | gt =>
      have above : cmp right left = .lt := (weak.converse left right).mp order
      cases lower : cmp left middle with
      | gt =>
          rw [lower] at first
          cases first
      | lt =>
          have impossible := weak.transitive right left middle above lower
          rw [(weak.converse middle right).mpr impossible] at second
          cases second
      | eq =>
          cases upper : cmp middle right with
          | gt =>
              rw [upper] at second
              cases second
          | lt =>
              have impossible := weak.transitive middle right left upper above
              rw [(weak.converse left middle).mpr impossible] at lower
              cases lower
          | eq =>
              rw [weak.incomparable left middle right lower upper] at order
              cases order

/-- The promise of `SortFunc` is made for strict weak orderings and for no other
comparator. -/
theorem strictWeakOrdering_iff {α : Type u} (cmp : α → α → Ordering) :
    StrictWeakOrdering cmp ↔ Std.TransCmp cmp := by
  constructor
  · intro weak
    exact
      { eq_swap := fun {left right} => weak.oriented left right
        isLE_trans := fun {_left _middle _right} => weak.isLE_trans }
  · intro lawful
    constructor
    · intro item below
      have reflexive : cmp item item = .eq := Std.ReflCmp.compare_self
      rw [reflexive] at below
      cases below
    · intro left right
      exact Std.OrientedCmp.gt_iff_lt
    · intro left middle right first second
      exact Std.TransCmp.lt_trans first second
    · intro left middle right first second
      exact Std.TransCmp.eq_trans first second

/-- The part of `slices.CompactFunc` after the first element.  Each element is
compared with its predecessor in the input, not with the last one kept. -/
def compactAfter {α : Type u} (eq : α → α → Bool) : α → List α → List α
  | _, [] => []
  | previous, item :: rest =>
      if eq item previous then compactAfter eq item rest
      else item :: compactAfter eq item rest

def compactFunc {α : Type u} (eq : α → α → Bool) : List α → List α
  | [] => []
  | item :: rest => item :: compactAfter eq item rest

section Compact

variable {α : Type u} {eq : α → α → Bool}

private theorem compactAfter_mem_or (sound : ∀ left right, eq left right = true → left = right)
    (previous item : α) (items : List α) :
    item ∈ previous :: compactAfter eq previous items ↔ item ∈ previous :: items := by
  induction items generalizing previous with
  | nil => rfl
  | cons head tail ih =>
      unfold compactAfter
      split
      · rename_i repeated
        have same := sound head previous repeated
        subst head
        rw [ih previous]
        simp only [List.mem_cons, or_self_left]
      · rw [List.mem_cons, ih head, List.mem_cons (b := previous)]

theorem mem_compactFunc (sound : ∀ left right, eq left right = true → left = right)
    (item : α) (items : List α) : item ∈ compactFunc eq items ↔ item ∈ items := by
  cases items with
  | nil => rfl
  | cons head tail => exact compactAfter_mem_or sound head item tail

private theorem compactAfter_increasing {cmp : α → α → Ordering} [Std.TransCmp cmp]
    (agrees : ∀ left right, eq left right = true ↔ cmp left right = .eq)
    (previous : α) (items : List α)
    (sorted : (previous :: items).Pairwise (fun left right => (cmp left right).isLE = true)) :
    (previous :: compactAfter eq previous items).Pairwise
      (fun left right => cmp left right = .lt) := by
  induction items generalizing previous with
  | nil => exact List.pairwise_singleton _ _
  | cons head tail ih =>
      obtain ⟨below, tailSorted⟩ := List.pairwise_cons.mp sorted
      have previousHead := below head (List.mem_cons_self)
      unfold compactAfter
      split
      · rename_i repeated
        -- `head` compares equal to `previous`, so it may stand for it.
        have equal : cmp head previous = .eq := (agrees head previous).mp repeated
        have shifted := ih head tailSorted
        obtain ⟨headBelow, restIncreasing⟩ := List.pairwise_cons.mp shifted
        refine List.pairwise_cons.mpr ⟨?_, restIncreasing⟩
        intro item member
        have step := headBelow item member
        rw [← Std.TransCmp.congr_left equal]
        exact step
      · rename_i different
        have strict : cmp previous head = .lt := by
          cases order : cmp previous head with
          | lt => rfl
          | eq =>
              have equal : cmp head previous = .eq := by
                have swapped : cmp head previous = (cmp previous head).swap :=
                  Std.OrientedCmp.eq_swap
                rw [swapped, order]
                rfl
              exact absurd ((agrees head previous).mpr equal) different
          | gt =>
              rw [order] at previousHead
              cases previousHead
        have shifted := ih head tailSorted
        refine List.pairwise_cons.mpr ⟨?_, shifted⟩
        intro item member
        rcases List.mem_cons.mp member with atHead | inTail
        · subst item
          exact strict
        · exact Std.TransCmp.lt_trans strict ((List.pairwise_cons.mp shifted).1 item inTail)

theorem compactFunc_increasing {cmp : α → α → Ordering} [Std.TransCmp cmp]
    (agrees : ∀ left right, eq left right = true ↔ cmp left right = .eq) (items : List α)
    (sorted : items.Pairwise (fun left right => (cmp left right).isLE = true)) :
    (compactFunc eq items).Pairwise (fun left right => cmp left right = .lt) := by
  cases items with
  | nil => exact List.Pairwise.nil
  | cons head tail => exact compactAfter_increasing agrees head tail sorted

end Compact

theorem nodup_of_increasing {α : Type u} {cmp : α → α → Ordering} [Std.TransCmp cmp]
    (items : List α) (increasing : items.Pairwise (fun left right => cmp left right = .lt)) :
    items.Nodup := by
  refine List.Pairwise.imp ?_ increasing
  intro left right below same
  subst right
  have reflexive : cmp left left = .eq := Std.ReflCmp.compare_self
  rw [reflexive] at below
  cases below

theorem eq_of_increasing {α : Type u} {cmp : α → α → Ordering} [Std.TransCmp cmp]
    {first second : List α}
    (firstIncreasing : first.Pairwise (fun left right => cmp left right = .lt))
    (secondIncreasing : second.Pairwise (fun left right => cmp left right = .lt))
    (sameMembers : ∀ item, item ∈ first ↔ item ∈ second) : first = second := by
  have permuted : first.Perm second :=
    (List.perm_ext_iff_of_nodup (nodup_of_increasing first firstIncreasing)
      (nodup_of_increasing second secondIncreasing)).mpr sameMembers
  refine permuted.eq_of_pairwise ?_ firstIncreasing secondIncreasing
  intro left right _inFirst _inSecond below above
  exact absurd above (Std.OrientedCmp.not_lt_of_lt below)

/-! ### Loops that a callback may stop -/

section Visits

universe v

variable {V : Type u} {E : Type v}

def visitEach (visit : V → E → V × Bool) : V → List E → V × Bool
  | visitor, [] => (visitor, true)
  | visitor, item :: rest =>
      match visit visitor item with
      | (after, true) => visitEach visit after rest
      | (after, false) => (after, false)

/-- A callback that raises a flag and stops exactly at the elements that hit. -/
structure StopsAtHit (flag : V → Bool) (hit : E → Bool) (visit : V → E → V × Bool) : Prop where
  raises : ∀ visitor item, flag (visit visitor item).1 = (flag visitor || hit item)
  stops : ∀ visitor item, (visit visitor item).2 = !hit item

theorem StopsAtHit.each {flag : V → Bool} {hit : E → Bool} {visit : V → E → V × Bool}
    (each : StopsAtHit flag hit visit) :
    StopsAtHit flag (fun items : List E => items.any hit) (visitEach visit) := by
  have both : ∀ (items : List E) (visitor : V),
      flag (visitEach visit visitor items).1 = (flag visitor || items.any hit) ∧
        (visitEach visit visitor items).2 = !items.any hit := by
    intro items
    induction items with
    | nil =>
        intro visitor
        exact ⟨(Bool.or_false _).symm, rfl⟩
    | cons item rest ih =>
        intro visitor
        have raised := each.raises visitor item
        have stopped := each.stops visitor item
        unfold visitEach
        cases result : visit visitor item with
        | mk after continues =>
            rw [result] at raised stopped
            cases hits : hit item with
            | true =>
                rw [hits] at raised stopped
                change continues = false at stopped
                subst continues
                exact ⟨by simpa [hits] using raised, by simp [hits]⟩
            | false =>
                rw [hits, Bool.or_false] at raised
                rw [hits] at stopped
                change continues = true at stopped
                subst continues
                obtain ⟨laterRaised, laterStopped⟩ := ih after
                change flag after = flag visitor at raised
                rw [raised] at laterRaised
                exact ⟨by simpa [hits] using laterRaised, by simpa [hits] using laterStopped⟩
  exact ⟨fun visitor items => (both items visitor).1, fun visitor items => (both items visitor).2⟩

end Visits

end NamespaceLister.Library

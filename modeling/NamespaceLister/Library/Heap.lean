/-
Values behind references.

A reference is an index into a growing list of cells.  `Frame` says which cells
a computation may have changed; the rest of a proof about sharing is then about
which references a value owns.
-/

import Mathlib.Data.List.Basic

namespace NamespaceLister.Library

universe u

structure Heap (V : Type u) where
  cells : List V

namespace Heap

variable {V : Type u}

def size (heap : Heap V) : Nat := heap.cells.length

def read (heap : Heap V) (address : Nat) : Option V := heap.cells[address]?

def alloc (heap : Heap V) (value : V) : Heap V × Nat :=
  ({ cells := heap.cells ++ [value] }, heap.size)

def update (heap : Heap V) (address : Nat) (change : V → V) : Heap V :=
  { cells := heap.cells.modify address change }

/-- A reference to a new cell with the value; nil for no value. -/
def allocRef (heap : Heap V) : Option V → Heap V × Option Nat
  | none => (heap, none)
  | some value => ((heap.alloc value).1, some (heap.alloc value).2)

def copy (heap : Heap V) (reference : Option Nat) : Heap V × Option Nat :=
  heap.allocRef (reference.bind heap.read)

/-- Change the value behind a reference, which becomes a new cell where it is nil. -/
def assign (heap : Heap V) (reference : Option Nat) (value : V) (change : V → V) :
    Heap V × Nat :=
  match reference with
  | some address => (heap.update address change, address)
  | none => ((heap.alloc value).1.update (heap.alloc value).2 change, (heap.alloc value).2)

@[simp]
theorem size_alloc (heap : Heap V) (value : V) : (heap.alloc value).1.size = heap.size + 1 := by
  simp [alloc, size]

@[simp]
theorem size_update (heap : Heap V) (address : Nat) (change : V → V) :
    (heap.update address change).size = heap.size :=
  List.length_modify change heap.cells address

theorem read_alloc (heap : Heap V) (value : V) (address : Nat) :
    (heap.alloc value).1.read address =
      if address = heap.size then some value else heap.read address := by
  change (heap.cells ++ [value])[address]? = _
  rw [List.getElem?_append]
  unfold size read
  by_cases inside : address < heap.cells.length
  · rw [if_pos inside, if_neg (Nat.ne_of_lt inside)]
  · rw [if_neg inside]
    by_cases last : address = heap.cells.length
    · rw [if_pos last, last, Nat.sub_self]
      rfl
    · rw [if_neg last, List.getElem?_eq_none (by simp only [List.length_singleton]; omega),
        List.getElem?_eq_none (by omega)]

theorem read_update (heap : Heap V) (address other : Nat) (change : V → V) :
    (heap.update address change).read other =
      if other = address then (heap.read other).map change else heap.read other := by
  change (heap.cells.modify address change)[other]? = _
  rw [List.getElem?_modify]
  unfold read
  by_cases same : other = address
  · subst other
    simp
  · simp [same, Ne.symm same]

theorem read_of_lt (heap : Heap V) (address : Nat) (inside : address < heap.size) :
    ∃ value, heap.read address = some value :=
  ⟨heap.cells.get ⟨address, inside⟩, List.getElem?_eq_getElem inside⟩

/-! ### Frames -/

/-- The heap only grew, and no old cell but the touched ones changed. -/
structure Frame (touched : Nat → Prop) (before after : Heap V) : Prop where
  grows : before.size ≤ after.size
  kept : ∀ address < before.size, ¬ touched address → after.read address = before.read address

variable {touched : Nat → Prop} {before middle after : Heap V}

theorem Frame.refl (touched : Nat → Prop) (heap : Heap V) : Frame touched heap heap :=
  { grows := Nat.le_refl _
    kept := fun _ _ _ => rfl }

theorem Frame.trans (first : Frame touched before middle) (second : Frame touched middle after) :
    Frame touched before after :=
  { grows := Nat.le_trans first.grows second.grows
    kept := by
      intro address inside untouched
      rw [second.kept address (Nat.lt_of_lt_of_le inside first.grows) untouched,
        first.kept address inside untouched] }

theorem Frame.mono {wider : Nat → Prop} (frame : Frame touched before after)
    (included : ∀ address, touched address → wider address) : Frame wider before after :=
  { grows := frame.grows
    kept := fun address inside untouched =>
      frame.kept address inside (fun reached => untouched (included address reached)) }

theorem Frame.alloc (frame : Frame touched before middle) (value : V) :
    Frame touched before (middle.alloc value).1 :=
  { grows := by
      rw [size_alloc]
      exact Nat.le_succ_of_le frame.grows
    kept := by
      intro address inside untouched
      rw [read_alloc, if_neg (Nat.ne_of_lt (Nat.lt_of_lt_of_le inside frame.grows)),
        frame.kept address inside untouched] }

theorem Frame.update (frame : Frame touched before middle) (address : Nat) (change : V → V)
    (allowed : touched address ∨ before.size ≤ address) :
    Frame touched before (middle.update address change) :=
  { grows := by
      rw [size_update]
      exact frame.grows
    kept := by
      intro other inside untouched
      have different : other ≠ address := by
        intro same
        subst other
        rcases allowed with reached | fresh
        · exact untouched reached
        · omega
      rw [read_update, if_neg different, frame.kept other inside untouched] }

/-! ### New cells and assignments -/

theorem Frame.allocRef (frame : Frame touched before middle) (value : Option V) :
    Frame touched before (middle.allocRef value).1 := by
  cases value with
  | none => exact frame
  | some value => exact frame.alloc value

theorem allocRef_read (heap : Heap V) (value : Option V) :
    (heap.allocRef value).2.bind (heap.allocRef value).1.read = value := by
  cases value with
  | none => rfl
  | some value =>
      change (heap.alloc value).1.read heap.size = some value
      rw [read_alloc, if_pos rfl]

theorem allocRef_fresh (heap : Heap V) (value : Option V) (address : Nat)
    (made : (heap.allocRef value).2 = some address) :
    heap.size ≤ address ∧ address < (heap.allocRef value).1.size := by
  cases value with
  | none => cases made
  | some value =>
      cases made
      change heap.size ≤ heap.size ∧ heap.size < (heap.alloc value).1.size
      rw [size_alloc]
      omega

theorem allocRef_twice (heap : Heap V) (value other : Option V) :
    let one := heap.allocRef value
    let two := one.1.allocRef other
    Frame (fun _ => False) heap two.1 ∧
      one.2.bind two.1.read = value ∧
      two.2.bind two.1.read = other ∧
      (∀ address, one.2 = some address ∨ two.2 = some address →
        heap.size ≤ address ∧ address < two.1.size) ∧
      ∀ address, one.2 = some address → two.2 ≠ some address := by
  intro one two
  have oneFrame : Frame (fun _ => False) heap one.1 := (Frame.refl _ heap).allocRef value
  have twoFrame : Frame (fun _ => False) one.1 two.1 := (Frame.refl _ one.1).allocRef other
  have oneFresh : ∀ address, one.2 = some address →
      heap.size ≤ address ∧ address < one.1.size := heap.allocRef_fresh value
  have twoFresh : ∀ address, two.2 = some address →
      one.1.size ≤ address ∧ address < two.1.size := one.1.allocRef_fresh other
  have oneGrows := oneFrame.grows
  have twoGrows := twoFrame.grows
  refine ⟨oneFrame.trans twoFrame, ?_, one.1.allocRef_read other, ?_, ?_⟩
  · have first : one.2.bind one.1.read = value := heap.allocRef_read value
    rw [← first]
    cases made : one.2 with
    | none => rfl
    | some address => exact twoFrame.kept address (oneFresh address made).2 not_false
  · intro address made
    rcases made with first | second
    · have bounds := oneFresh address first
      omega
    · have bounds := twoFresh address second
      omega
  · intro address first second
    have early := (oneFresh address first).2
    have late := (twoFresh address second).1
    omega

section Assign

variable (heap : Heap V) (reference : Option Nat) (value : V) (change : V → V)

theorem Frame.assign {reference : Option Nat} (frame : Frame touched before middle)
    (allowed : ∀ address, reference = some address → touched address ∨ before.size ≤ address) :
    Frame touched before (middle.assign reference value change).1 := by
  cases reference with
  | some address => exact frame.update address change (allowed address rfl)
  | none => exact (frame.alloc value).update _ change (Or.inr frame.grows)

theorem assign_grows : heap.size ≤ (heap.assign reference value change).1.size :=
  ((Frame.refl (fun _ => True) heap).assign value change (fun _ _ => Or.inl trivial)).grows

theorem assign_address :
    reference = some (heap.assign reference value change).2 ∨
      (heap.assign reference value change).2 = heap.size := by
  cases reference with
  | some address => exact Or.inl rfl
  | none => exact Or.inr rfl

theorem assign_lt (inside : ∀ address, reference = some address → address < heap.size) :
    (heap.assign reference value change).2 < (heap.assign reference value change).1.size := by
  cases reference with
  | some address =>
      change address < (heap.update address change).size
      rw [size_update]
      exact inside address rfl
  | none =>
      change heap.size < ((heap.alloc value).1.update _ change).size
      rw [size_update, size_alloc]
      exact Nat.lt_succ_self _

theorem assign_within (low : Nat) (lower : low ≤ heap.size)
    (inside : ∀ address, reference = some address → low ≤ address ∧ address < heap.size) :
    low ≤ (heap.assign reference value change).2 ∧
      (heap.assign reference value change).2 < (heap.assign reference value change).1.size := by
  constructor
  · rcases heap.assign_address reference value change with old | fresh
    · exact (inside _ old).1
    · rw [fresh]
      exact lower
  · exact heap.assign_lt reference value change (fun address owned => (inside address owned).2)

theorem assign_read (inside : ∀ address, reference = some address → address < heap.size) :
    (heap.assign reference value change).1.read (heap.assign reference value change).2 =
      some (change ((reference.bind heap.read).getD value)) := by
  cases reference with
  | some address =>
      obtain ⟨stored, found⟩ := heap.read_of_lt address (inside address rfl)
      change (heap.update address change).read address =
        some (change ((heap.read address).getD value))
      rw [read_update, if_pos rfl, found]
      rfl
  | none =>
      change ((heap.alloc value).1.update heap.size change).read heap.size = some (change value)
      rw [read_update, if_pos rfl, read_alloc, if_pos rfl]
      rfl

end Assign

theorem assign_twice (heap : Heap V) (first second : Option Nat) (value : V)
    (change other : V → V)
    (firstInside : ∀ address, first = some address → address < heap.size)
    (secondInside : ∀ address, second = some address → address < heap.size)
    (apart : ∀ address, first = some address → second ≠ some address) :
    let one := heap.assign first value change
    let two := one.1.assign second value other
    two.1.read one.2 = some (change ((first.bind heap.read).getD value)) ∧
      two.1.read two.2 = some (other ((second.bind heap.read).getD value)) := by
  intro one two
  have oneFrame : Frame (fun address => first = some address) heap one.1 :=
    (Frame.refl _ heap).assign value change (fun _ owned => Or.inl owned)
  have twoFrame : Frame (fun address => second = some address) one.1 two.1 :=
    (Frame.refl _ one.1).assign value other (fun _ owned => Or.inl owned)
  have oneBound : one.2 < one.1.size := heap.assign_lt first value change firstInside
  have stillInside : ∀ address, second = some address → address < one.1.size :=
    fun address owned => Nat.lt_of_lt_of_le (secondInside address owned) oneFrame.grows
  constructor
  · have kept : second ≠ some one.2 := by
      intro same
      rcases heap.assign_address first value change with old | fresh
      · exact apart one.2 old same
      · have early := secondInside one.2 same
        change one.2 = heap.size at fresh
        omega
    rw [twoFrame.kept one.2 oneBound kept]
    exact heap.assign_read first value change firstInside
  · have unchanged : second.bind one.1.read = second.bind heap.read := by
      cases reference : second with
      | none => rfl
      | some address =>
          exact oneFrame.kept address (secondInside address reference)
            (fun same => apart address same reference)
    rw [← unchanged]
    exact one.1.assign_read second value other stillInside

theorem Frame.assign_twice {heap : Heap V} (made : Frame (fun _ => False) before heap)
    (first second : Option Nat) (value : V) (change other : V → V)
    (firstInside : ∀ address, first = some address →
      before.size ≤ address ∧ address < heap.size)
    (secondInside : ∀ address, second = some address →
      before.size ≤ address ∧ address < heap.size) :
    let one := heap.assign first value change
    let two := one.1.assign second value other
    Frame (fun _ => False) before two.1 ∧
      (before.size ≤ one.2 ∧ one.2 < two.1.size) ∧
      before.size ≤ two.2 ∧ two.2 < two.1.size := by
  intro one two
  have oneFrame : Frame (fun _ => False) before one.1 :=
    made.assign value change (fun address owned => Or.inr (firstInside address owned).1)
  have twoFrame : Frame (fun _ => False) before two.1 :=
    oneFrame.assign value other (fun address owned => Or.inr (secondInside address owned).1)
  have oneBounds : before.size ≤ one.2 ∧ one.2 < one.1.size :=
    heap.assign_within first value change before.size made.grows firstInside
  have oneGrows : heap.size ≤ one.1.size := heap.assign_grows first value change
  have twoGrows : one.1.size ≤ two.1.size := one.1.assign_grows second value other
  have twoBounds : before.size ≤ two.2 ∧ two.2 < two.1.size := by
    apply one.1.assign_within second value other before.size oneFrame.grows
    intro address owned
    have bounds := secondInside address owned
    omega
  refine ⟨twoFrame, ?_, twoBounds⟩
  omega

end Heap
end NamespaceLister.Library

/-
Interleavings as runs of a labelled machine, and bounded channels.

Every source of nondeterminism (which thread moves, which outcome a call has,
how the environment changes) is in the label, so `step` is a function and a run
is a list of labels that can be evaluated.  Invariants over all interleavings
are proved from one step by `Machine.invariant_run`.
-/

import Mathlib.Algebra.BigOperators.Group.Finset.Piecewise
import Mathlib.Logic.Basic

namespace NamespaceLister.Library

universe u v w x

/-- A step is refused (`none`) when its label is not enabled. -/
structure Machine (State : Type u) (Label : Type v) where
  step : State → Label → Option State

namespace Machine

variable {State : Type u} {Label : Type v} (machine : Machine State Label)

def run : State → List Label → Option State
  | state, [] => some state
  | state, label :: rest =>
      match machine.step state label with
      | none => none
      | some next => run next rest

/-- Every step of the run is taken in a state, under a label, that meet the
condition. -/
def Along (condition : State → Label → Prop) : State → List Label → Prop
  | _, [] => True
  | state, label :: rest =>
      condition state label ∧
        ∀ next, machine.step state label = some next → Along condition next rest

theorem run_cons_some {state final : State} {label : Label} {rest : List Label}
    (ran : machine.run state (label :: rest) = some final) :
    ∃ next, machine.step state label = some next ∧ machine.run next rest = some final := by
  unfold run at ran
  split at ran
  · cases ran
  · rename_i next stepped
    exact ⟨next, stepped, ran⟩

theorem along_cons_iff {condition : State → Label → Prop} {state next : State} {label : Label}
    {rest : List Label} (stepped : machine.step state label = some next) :
    machine.Along condition state (label :: rest) ↔
      condition state label ∧ machine.Along condition next rest := by
  constructor
  · intro along
    exact ⟨along.1, along.2 next stepped⟩
  · intro both
    refine ⟨both.1, ?_⟩
    intro reached steppedTo
    rw [stepped] at steppedTo
    cases steppedTo
    exact both.2

/-- What every step under the condition keeps, every run along it keeps. -/
theorem invariant_run {Invariant : State → Prop} {condition : State → Label → Prop}
    (keeps : ∀ state label next, Invariant state → condition state label →
      machine.step state label = some next → Invariant next)
    {state final : State} {labels : List Label} (start : Invariant state)
    (along : machine.Along condition state labels)
    (ran : machine.run state labels = some final) : Invariant final := by
  induction labels generalizing state with
  | nil =>
      cases ran
      exact start
  | cons label rest ih =>
      obtain ⟨next, stepped, ranRest⟩ := machine.run_cons_some ran
      exact ih (keeps state label next start along.1 stepped) (along.2 next stepped) ranRest

theorem history_run {Invariant : List Label → State → Prop} {condition : State → Label → Prop}
    {start : State}
    (keeps : ∀ labels state label next, Invariant labels state → condition state label →
      machine.step state label = some next → Invariant (labels ++ [label]) next)
    (begins : Invariant [] start) {labels : List Label} {final : State}
    (along : machine.Along condition start labels)
    (ran : machine.run start labels = some final) : Invariant labels final := by
  have further : ∀ (rest before : List Label) (state : State), Invariant before state →
      machine.Along condition state rest → machine.run state rest = some final →
      Invariant (before ++ rest) final := by
    intro rest
    induction rest with
    | nil =>
        intro before state holds _along ranRest
        cases ranRest
        rw [List.append_nil]
        exact holds
    | cons label rest ih =>
        intro before state holds alongRest ranRest
        obtain ⟨next, stepped, later⟩ := machine.run_cons_some ranRest
        have held := ih (before ++ [label]) next
          (keeps before state label next holds alongRest.1 stepped) (alongRest.2 next stepped) later
        rw [List.append_assoc] at held
        exact held
  exact further labels [] start begins along ran

theorem along_of_forall {condition : State → Label → Prop} {labels : List Label}
    (all : ∀ label ∈ labels, ∀ state, condition state label) (state : State) :
    machine.Along condition state labels := by
  induction labels generalizing state with
  | nil => trivial
  | cons label rest ih =>
      refine ⟨all label List.mem_cons_self state, ?_⟩
      intro next _stepped
      exact ih (fun later member => all later (List.mem_cons_of_mem label member)) next

def passes (test : State → Label → Bool) : State → List Label → Bool
  | _, [] => true
  | state, label :: rest =>
      test state label &&
        match machine.step state label with
        | none => true
        | some next => passes test next rest

theorem along_of_passes {condition : State → Label → Prop} {test : State → Label → Bool}
    (sound : ∀ state label, test state label = true → condition state label)
    {state : State} {labels : List Label} (passed : machine.passes test state labels = true) :
    machine.Along condition state labels := by
  induction labels generalizing state with
  | nil => trivial
  | cons label rest ih =>
      unfold passes at passed
      rw [Bool.and_eq_true] at passed
      refine ⟨sound state label passed.1, ?_⟩
      intro next stepped
      apply ih
      have later := passed.2
      rw [stepped] at later
      exact later

theorem Along.imp {first second : State → Label → Prop} {state : State} {labels : List Label}
    (weaker : ∀ at_ label, first at_ label → second at_ label)
    (along : machine.Along first state labels) : machine.Along second state labels := by
  induction labels generalizing state with
  | nil => trivial
  | cons label rest ih =>
      exact ⟨weaker state label along.1, fun next stepped => ih (along.2 next stepped)⟩

theorem Along.and {first second : State → Label → Prop} {state : State} {labels : List Label}
    (alongFirst : machine.Along first state labels)
    (alongSecond : machine.Along second state labels) :
    machine.Along (fun at_ label => first at_ label ∧ second at_ label) state labels := by
  induction labels generalizing state with
  | nil => trivial
  | cons label rest ih =>
      refine ⟨⟨alongFirst.1, alongSecond.1⟩, ?_⟩
      intro next stepped
      exact ih (alongFirst.2 next stepped) (alongSecond.2 next stepped)

theorem run_append {state middle : State} {first second : List Label}
    (ran : machine.run state first = some middle) :
    machine.run state (first ++ second) = machine.run middle second := by
  induction first generalizing state with
  | nil =>
      cases ran
      rfl
  | cons label rest ih =>
      obtain ⟨next, stepped, ranRest⟩ := machine.run_cons_some ran
      rw [List.cons_append, run, stepped]
      exact ih ranRest

theorem run_singleton {state next : State} {label : Label}
    (stepped : machine.step state label = some next) : machine.run state [label] = some next := by
  rw [run, stepped]
  rfl

section Measures

variable {Invariant : State → Prop} {condition : State → Label → Prop} {measure : State → Nat}

/-- A measure that every step under the condition lowers pays for every step of a
run along it. -/
theorem length_add_measure_le
    (keeps : ∀ state label next, Invariant state → condition state label →
      machine.step state label = some next → Invariant next)
    (lowers : ∀ state label next, Invariant state → condition state label →
      machine.step state label = some next → measure next < measure state)
    {state final : State} {labels : List Label} (start : Invariant state)
    (along : machine.Along condition state labels)
    (ran : machine.run state labels = some final) :
    labels.length + measure final ≤ measure state := by
  induction labels generalizing state with
  | nil =>
      cases ran
      exact Nat.le_of_eq (Nat.zero_add _)
  | cons label rest ih =>
      obtain ⟨next, stepped, ranRest⟩ := machine.run_cons_some ran
      have paid := lowers state label next start along.1 stepped
      have later := ih (keeps state label next start along.1 stepped) (along.2 next stepped)
        ranRest
      rw [List.length_cons]
      omega

/-- A quantity that grows by one at the counted steps and is kept by the others
tells their number. -/
theorem tally_run {tally : State → Int} {counts : Label → Bool}
    (keeps : ∀ state label next, Invariant state → machine.step state label = some next →
      Invariant next)
    (adds : ∀ state label next, Invariant state → machine.step state label = some next →
      tally next = tally state + (counts label).toNat)
    {state final : State} {labels : List Label} (start : Invariant state)
    (ran : machine.run state labels = some final) :
    tally final = tally state + labels.countP counts := by
  induction labels generalizing state with
  | nil =>
      cases ran
      exact (Int.add_zero _).symm
  | cons label rest ih =>
      obtain ⟨next, stepped, ranRest⟩ := machine.run_cons_some ran
      have later := ih (keeps state label next start stepped) ranRest
      have here := adds state label next start stepped
      rw [List.countP_cons]
      cases counted : counts label with
      | false =>
          rw [counted] at here
          simp only [Bool.toNat_false, Bool.false_eq_true, if_false] at here ⊢
          omega
      | true =>
          rw [counted] at here
          simp only [Bool.toNat_true, if_true] at here ⊢
          omega

end Measures

section Projection

variable {Part : Type w} {Action : Type x}

/-- The actions of a part of the system in a run, when `read` gives those of one
step. -/
def actions (read : State → Label → List Action) : State → List Label → List Action
  | _, [] => []
  | state, label :: rest =>
      match machine.step state label with
      | none => []
      | some next => read state label ++ actions read next rest

theorem mem_actions {read : State → Label → List Action} {state : State} {labels : List Label}
    {action : Action} (member : action ∈ machine.actions read state labels) :
    ∃ label ∈ labels, ∃ at_, action ∈ read at_ label := by
  induction labels generalizing state with
  | nil => cases member
  | cons label rest ih =>
      unfold actions at member
      split at member
      · cases member
      · rename_i next _stepped
        rcases List.mem_append.mp member with here | later
        · exact ⟨label, List.mem_cons_self, state, here⟩
        · obtain ⟨other, inRest, found⟩ := ih later
          exact ⟨other, List.mem_cons_of_mem label inRest, found⟩

theorem run_actions {part : Machine Part Action} {view : State → Part}
    {read : State → Label → List Action} {Invariant : State → Prop}
    (keeps : ∀ state label next, Invariant state → machine.step state label = some next →
      Invariant next)
    (simulated : ∀ state label next, Invariant state → machine.step state label = some next →
      part.run (view state) (read state label) = some (view next))
    {state final : State} {labels : List Label} (start : Invariant state)
    (ran : machine.run state labels = some final) :
    part.run (view state) (machine.actions read state labels) = some (view final) := by
  induction labels generalizing state with
  | nil =>
      cases ran
      rfl
  | cons label rest ih =>
      obtain ⟨next, stepped, ranRest⟩ := machine.run_cons_some ran
      unfold actions
      rw [stepped]
      change part.run (view state) (read state label ++ machine.actions read next rest) = _
      rw [part.run_append (simulated state label next start stepped)]
      exact ih (keeps state label next start stepped) ranRest

end Projection

end Machine

/-! ### Totals over parties -/

section Totals

variable {Party : Type u} {Pc : Type v} [Fintype Party]

def total (weight : Pc → Nat) (pcs : Party → Pc) : Nat :=
  ∑ party, weight (pcs party)

theorem total_update [DecidableEq Party] (weight : Pc → Nat) (pcs : Party → Pc) (party : Party)
    (pc : Pc) :
    total weight (Function.update pcs party pc) + weight (pcs party) =
      total weight pcs + weight pc := by
  have moved : (fun other => weight (Function.update pcs party pc other)) =
      Function.update (fun other => weight (pcs other)) party (weight pc) := by
    funext other
    by_cases same : other = party
    · subst same
      rw [Function.update_self, Function.update_self]
    · rw [Function.update_of_ne same, Function.update_of_ne same]
  unfold total
  rw [moved, Finset.sum_update_of_mem (Finset.mem_univ party),
    ← Finset.add_sum_erase _ (fun other => weight (pcs other)) (Finset.mem_univ party),
    Finset.sdiff_singleton_eq_erase]
  omega

end Totals

/-- A buffered channel of signals: only their number is observable. -/
structure Channel (capacity : Nat) where
  length : Nat
  bounded : length ≤ capacity
deriving DecidableEq

namespace Channel

variable {capacity : Nat}

def make (capacity : Nat) : Channel capacity :=
  { length := 0
    bounded := Nat.zero_le capacity }

/-- A send inside a `select` with a default case: the second component says
whether the signal was queued. -/
def trySend (channel : Channel capacity) : Channel capacity × Bool :=
  if room : channel.length < capacity then
    ({ length := channel.length + 1, bounded := room }, true)
  else (channel, false)

def receive (channel : Channel capacity) : Option (Channel capacity) :=
  match channel with
  | ⟨0, _⟩ => none
  | ⟨count + 1, bounded⟩ =>
      some { length := count, bounded := Nat.le_of_succ_le bounded }

theorem trySend_length_pos (channel : Channel capacity) (positive : 0 < capacity) :
    0 < channel.trySend.1.length := by
  unfold trySend
  split
  · exact Nat.succ_pos _
  · rename_i full
    exact Nat.lt_of_lt_of_le positive (Nat.le_of_not_lt full)

theorem trySend_length (channel : Channel capacity) :
    channel.trySend.1.length = channel.length + channel.trySend.2.toNat := by
  unfold trySend
  split
  · rfl
  · rfl

theorem length_eq_zero_of_receive {channel : Channel capacity}
    (refused : channel.receive = none) : channel.length = 0 := by
  unfold receive at refused
  split at refused
  · rfl
  · cases refused

theorem receive_length {channel rest : Channel capacity}
    (received : channel.receive = some rest) : channel.length = rest.length + 1 := by
  unfold receive at received
  split at received
  · cases received
  · cases received
    rfl

end Channel
end NamespaceLister.Library

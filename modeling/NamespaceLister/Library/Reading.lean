/-
Programs that read a store one query at a time, while the store may change between
two reads.

`resume` follows a program through reads made at given moments of a history.
`answer` is what the program returns when all its reads see one store, and
`answer_of_resume` connects the two where the store stands still.
-/

import Mathlib.Logic.Basic

namespace NamespaceLister.Library

universe u v w

/-- What is asked next may depend on the answers so far. -/
inductive Reading (Query : Type u) (Answer : Query → Type v) (Result : Type w) where
  | done (result : Result)
  | ask (query : Query) (next : Answer query → Reading Query Answer Result)

namespace Reading

variable {Query : Type u} {Answer : Query → Type v} {First Second Result : Type w}

def bind (next : First → Reading Query Answer Second) :
    Reading Query Answer First → Reading Query Answer Second
  | .done result => next result
  | .ask query after => .ask query (fun given => (after given).bind next)

instance : Monad (Reading Query Answer) where
  pure := done
  bind program next := program.bind next

def read (query : Query) : Reading Query Answer (Answer query) :=
  .ask query .done

/-! ### One store -/

def answer (store : (query : Query) → Answer query) : Reading Query Answer Result → Result
  | .done result => result
  | .ask query next => (next (store query)).answer store

variable {store : (query : Query) → Answer query}

@[simp]
theorem answer_read (query : Query) :
    (read query : Reading Query Answer (Answer query)).answer store = store query :=
  rfl

@[simp]
theorem answer_bind (program : Reading Query Answer First)
    (next : First → Reading Query Answer Second) :
    (program >>= next).answer store = (next (program.answer store)).answer store := by
  change (program.bind next).answer store = _
  induction program with
  | done result => rfl
  | ask query after ih => exact ih (store query)

@[simp]
theorem answer_mapM {A : Type} (visit : A → Reading Query Answer Result) (items : List A) :
    (items.mapM' visit).answer store = items.map (fun item => (visit item).answer store) := by
  induction items with
  | nil => rfl
  | cons item rest ih =>
      rw [List.mapM'_cons, answer_bind, answer_bind, ih]
      rfl

/-! ### A history of stores -/

/-- What is left of a program after reads at the given moments; none if the program
ends before them. -/
def resume (history : Nat → (query : Query) → Answer query) :
    List Nat → Reading Query Answer Result → Option (Reading Query Answer Result)
  | [], program => some program
  | _ :: _, .done _ => none
  | moment :: later, .ask query next => resume history later (next (history moment query))

variable {history : Nat → (query : Query) → Answer query} {moments : List Nat}
variable {program rest : Reading Query Answer Result}

theorem resume_concat {query : Query} {next : Answer query → Reading Query Answer Result}
    (at_ : program.resume history moments = some (.ask query next)) (now : Nat) :
    program.resume history (moments ++ [now]) = some (next (history now query)) := by
  induction moments generalizing program with
  | nil =>
      cases at_
      rfl
  | cons moment later ih =>
      cases program with
      | done result => cases at_
      | ask asked after => exact ih at_

theorem resume_congr {longer : Nat → (query : Query) → Answer query}
    (agree : ∀ moment ∈ moments, longer moment = history moment) :
    program.resume longer moments = program.resume history moments := by
  induction moments generalizing program with
  | nil => rfl
  | cons moment later ih =>
      cases program with
      | done result => rfl
      | ask query next =>
          rw [resume, resume, agree moment List.mem_cons_self]
          exact ih (fun time member => agree time (List.mem_cons_of_mem moment member))

theorem answer_of_resume (still : ∀ moment ∈ moments, history moment = store)
    (at_ : program.resume history moments = some rest) :
    rest.answer store = program.answer store := by
  induction moments generalizing program with
  | nil =>
      cases at_
      rfl
  | cons moment later ih =>
      cases program with
      | done result => cases at_
      | ask query next =>
          rw [resume, still moment List.mem_cons_self] at at_
          rw [answer]
          exact ih (fun time member => still time (List.mem_cons_of_mem moment member)) at_

end Reading

end NamespaceLister.Library

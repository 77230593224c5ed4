/-
What `List` returns in every state of the cache.

On a restocked cache the path for several keys is a first-wins union, so a
namespace that a user reaches both directly and through groups is shown with the
entry of the user.  Before the first Restock the pointer is nil, and only two of
the three paths of `List` look at it first.
-/

import NamespaceLister.SubjectNamespaceLister
import NamespaceLister.SynchMachine

namespace NamespaceLister

open Library
open AtomicListRestockCache

universe u v w

/-! ### The union of several keys -/

section Union

variable {K : Type u} {E : Type v} {I : Type w} [DecidableEq K] [DecidableEq I]
variable {idFunc : E → I}

omit [DecidableEq K] in
private theorem FirstWins.first_list {own others items : List E}
    (union : FirstWins idFunc (own ++ others) items) (first : E)
    (found : own.find? (fun other => idFunc other = idFunc first) = some first) :
    first ∈ items ∧ ∀ shown ∈ items, idFunc shown = idFunc first → shown = first := by
  have reached : (own ++ others).find? (fun other => idFunc other = idFunc first) =
      some first := by
    rw [List.find?_append, found]
    rfl
  constructor
  · exact (union.mem_iff first).mpr reached
  · intro shown member same
    have shownFirst := (union.mem_iff shown).mp member
    rw [same, reached] at shownFirst
    exact (Option.some.inj shownFirst).symm

end Union

/-- For two or more keys, `List` returns one element for each identifier that is
reached, the first one in the order of the keys and of their lists.  A single key
whose list has distinct identifiers gives the same elements as that key twice.
In a reply the first entry of the user's own list stands for its namespace. -/
theorem list_firstWins_union {K : Type u} {E : Type v} {I : Type w} [DecidableEq K]
    [DecidableEq I] (idFunc : E → I) (cache : AtomicListRestockCache K idFunc)
    (stored : GoMap K (List E)) :
    (∀ (order : RangeOrder E) (keys : List K), 2 ≤ keys.length →
      ∃ items,
        (cache.restock stored).listKeys order keys = .ok (some items) ∧
        (items.map idFunc).Nodup ∧
        (∀ identifier, identifier ∈ items.map idFunc ↔
          ∃ key ∈ keys, ∃ item ∈ (stored.lookup key).getD [], idFunc item = identifier) ∧
        ∀ item ∈ items,
          (keys.flatMap (fun key => (stored.lookup key).getD [])).find?
            (fun other => idFunc other = idFunc item) = some item) ∧
    (∀ (order : RangeOrder E) (key : K), (((stored.lookup key).getD []).map idFunc).Nodup →
      ∃ single double,
        (cache.restock stored).listKeys order [key] = .ok single ∧
        (cache.restock stored).listKeys order [key, key] = .ok double ∧
        (single.getD []).Perm (double.getD [])) ∧
    ∀ (order : RangeOrder Namespace) (access : AccessCache) (data : AccessData)
      (username : GoString) (groups : List GoString) (sub : Subject),
      parseUsername username = .ok sub → groups ≠ [] →
      ∃ reply,
        listNamespaces order (access.restock data) username groups = .ok reply ∧
        ∀ own,
          ((data.lookup sub).getD []).find? (fun other => other.name = own.name) = some own →
          own ∈ reply.items.getD [] ∧
          ∀ shown ∈ reply.items.getD [], shown.name = own.name → shown = own := by
  refine ⟨?_, ?_, ?_⟩
  · intro order keys several
    obtain ⟨items, listed, union⟩ :=
      listKeys_several order (cache.restock stored) stored rfl keys several
    refine ⟨items, listed, union.ids_nodup, ?_, ?_⟩
    · intro identifier
      rw [union.mem_ids_iff]
      simp only [underKeys, List.mem_map, List.mem_flatMap]
      constructor
      · intro present
        obtain ⟨item, ⟨key, inKeys, inList⟩, same⟩ := present
        exact ⟨key, inKeys, item, inList, same⟩
      · intro present
        obtain ⟨key, inKeys, item, inList, same⟩ := present
        exact ⟨item, ⟨key, inKeys, inList⟩, same⟩
    · intro item member
      exact (union.mem_iff item).mp member
  · intro order key distinct
    obtain ⟨double, listed, union⟩ :=
      listKeys_several order (cache.restock stored) stored rfl [key, key] (Nat.le_refl 2)
    refine ⟨stored.lookup key, some double, rfl, listed, ?_⟩
    have single : FirstWins idFunc (underKeys stored [key] ++ underKeys stored [])
        ((stored.lookup key).getD []) := by
      have reached : underKeys stored [key] ++ underKeys stored [] =
          (stored.lookup key).getD [] := by
        simp only [underKeys, List.flatMap_cons, List.flatMap_nil, List.append_nil]
      rw [reached]
      exact firstWins_self _ distinct
    have again : key ∈ [key] := List.mem_singleton_self key
    rw [← List.singleton_append, underKeys_insert] at union
    exact (single.perm_insert_iff union distinct).mpr
      (unobtrusive_of_neutral stored key [key] [] (Or.inr again))
  · intro order access data username groups sub parsed grouped
    obtain ⟨group, others, shape⟩ := List.exists_cons_of_ne_nil grouped
    subst groups
    obtain ⟨items, listed, union⟩ :=
      listKeys_several order (access.restock data) data rfl
        (sub :: (group :: others).map groupSubject) (Nat.le_add_left 2 _)
    refine ⟨_, listNamespaces_of_listKeys order _ username _ sub parsed _ listed, ?_⟩
    intro own found
    have split : underKeys data (sub :: (group :: others).map groupSubject) =
        (data.lookup sub).getD [] ++ underKeys data ((group :: others).map groupSubject) := by
      simp only [underKeys, List.flatMap_cons]
    rw [split] at union
    exact FirstWins.first_list union own found

/-! ### Before and after the first Restock -/

def newAtomicListRestockAccessCache : AccessCache :=
  newAtomicListRestockCache Subject Namespace.name

/-- One call on the cache.  Each accesses the pointer at most once, atomically,
so an interleaving of calls is a sequence of them. -/
inductive CacheCall where
  | restock (data : AccessData)
  | list (order : RangeOrder Namespace) (keys : List Subject)

def applyCall (cache : AccessCache) : CacheCall → AccessCache
  | .restock data => cache.restock data
  | .list _ _ => cache

def cacheAfter (calls : List CacheCall) : AccessCache :=
  calls.foldl applyCall newAtomicListRestockAccessCache

/-- No List call of the sequence panics, and those before the first Restock
return no elements. -/
def safeListing (calls : List CacheCall) : Prop :=
  ∀ earlier order keys later, calls = earlier ++ .list order keys :: later →
    ∃ reply, (cacheAfter earlier).listKeys order keys = .ok reply ∧
      ((∀ data, CacheCall.restock data ∉ earlier) → reply.getD [] = [])

private theorem foldl_applyCall_data (calls : List CacheCall) (cache : AccessCache) :
    (calls.foldl applyCall cache).data = none ↔
      cache.data = none ∧ ∀ data, CacheCall.restock data ∉ calls := by
  induction calls generalizing cache with
  | nil => simp
  | cons call rest ih =>
      rw [List.foldl_cons, ih]
      cases call with
      | restock data =>
          constructor
          · intro both
            cases both.1
          · intro both
            exact absurd List.mem_cons_self (both.2 data)
      | list order keys => simp [applyCall]

theorem cacheAfter_data (calls : List CacheCall) :
    (cacheAfter calls).data = none ↔ ∀ data, CacheCall.restock data ∉ calls := by
  unfold cacheAfter
  rw [foldl_applyCall_data]
  exact and_iff_right rfl

theorem listKeys_nilPointer (order : RangeOrder Namespace) (cache : AccessCache)
    (empty : cache.data = none) (keys : List Subject) :
    cache.listKeys order keys =
      if 2 ≤ keys.length then .error .nilDereference else .ok none := by
  match keys with
  | [] => rfl
  | [key] => simp [listKeys, AtomicListRestockCache.list, empty]
  | first :: second :: rest => simp [listKeys, listAll, empty]

theorem listKeys_restocked (order : RangeOrder Namespace) (cache : AccessCache)
    (stocked : cache.data ≠ none) (keys : List Subject) :
    ∃ reply, cache.listKeys order keys = .ok reply := by
  obtain ⟨stored, restocked⟩ := Option.ne_none_iff_exists'.mp stocked
  obtain ⟨reply, listed, _ids⟩ := listKeys_ids order cache stored restocked keys
  exact ⟨reply, listed⟩

/-- Listing is safe in a sequence of calls exactly when every List with two or
more keys comes after a Restock. -/
theorem safeListing_iff (calls : List CacheCall) :
    safeListing calls ↔
      ∀ earlier order keys later, calls = earlier ++ .list order keys :: later →
        2 ≤ keys.length → ∃ data, CacheCall.restock data ∈ earlier := by
  constructor
  · intro safe earlier order keys later split several
    by_contra unstocked
    have never : ∀ data, CacheCall.restock data ∉ earlier := fun data member =>
      unstocked ⟨data, member⟩
    obtain ⟨reply, listed, _empty⟩ := safe earlier order keys later split
    rw [listKeys_nilPointer order _ ((cacheAfter_data earlier).mpr never), if_pos several] at listed
    cases listed
  · intro stocked earlier order keys later split
    by_cases never : ∀ data, CacheCall.restock data ∉ earlier
    · have few : ¬2 ≤ keys.length := by
        intro several
        obtain ⟨data, member⟩ := stocked earlier order keys later split several
        exact never data member
      refine ⟨none, ?_, fun _ => rfl⟩
      rw [listKeys_nilPointer order _ ((cacheAfter_data earlier).mpr never), if_neg few]
    · have stored : (cacheAfter earlier).data ≠ none := fun empty =>
        never ((cacheAfter_data earlier).mp empty)
      obtain ⟨reply, listed⟩ := listKeys_restocked order (cacheAfter earlier) stored keys
      exact ⟨reply, listed, fun absent => absurd absent never⟩

/-- A user with one group asks a cache that was never restocked. -/
theorem safeListing_fails :
    ¬safeListing [.list (RangeOrder.asKept Namespace)
      [userSubject "alice", groupSubject "developers"]] := by
  intro safe
  obtain ⟨reply, listed, _empty⟩ := safe [] (RangeOrder.asKept Namespace)
    [userSubject "alice", groupSubject "developers"] [] rfl
  cases listed

/-! ### Step by step -/

section Interleaved

variable {rt : Runtime} {W : Type u} {Caller : Type v} {Reader : Type w}
variable [DecidableEq Caller] [DecidableEq Reader]

private theorem pointerAt_none_iff (publications : List (Snapshot rt)) (version : Nat)
    (past : version ≤ publications.length) :
    pointerAt publications version = none ↔ version = 0 := by
  unfold pointerAt
  rw [Option.map_eq_none_iff, List.getLast?_eq_none_iff, List.take_eq_nil_iff]
  constructor
  · intro empty
    rcases empty with zero | nothing
    · exact zero
    · rw [nothing] at past
      exact Nat.le_zero.mp past
  · exact Or.inl

/-- When the atomic steps of Synch callers and readers interleave, an answer is a
panic exactly when its call had two or more keys and loaded the pointer before
the first publication. -/
theorem interleaved_panics_iff (resources : ResourceReader W) (world : W)
    (labels : List (SynchLabel W Caller Reader)) (state : SynchState rt W Caller Reader)
    (ran : (synchMachine resources).run (SynchState.initial rt world) labels = some state)
    (answer : Answer) (given : answer ∈ state.answers) :
    (∃ panic, answer.result = .error panic) ↔
      2 ≤ answer.keys.length ∧ answer.version = some 0 := by
  have from_ := ((synchInvariant_run resources world labels state ran).answered answer given).1
  unfold Answer.fromOne at from_
  cases loaded : answer.version with
  | none =>
      rw [loaded] at from_
      obtain ⟨noKeys, result⟩ := from_
      simp [noKeys, result]
  | some version =>
      rw [loaded] at from_
      obtain ⟨past, result⟩ := from_
      rw [result, Option.some.injEq]
      by_cases unpublished : version = 0
      · have empty := (pointerAt_none_iff state.shared.publications version past).mpr unpublished
        rw [listKeys_nilPointer answer.order
          (⟨pointerAt state.shared.publications version⟩ : AccessCache) empty]
        by_cases several : 2 ≤ answer.keys.length
        · simp [several, unpublished]
        · simp [several]
      · have stocked : pointerAt state.shared.publications version ≠ none := fun empty =>
          unpublished ((pointerAt_none_iff state.shared.publications version past).mp empty)
        obtain ⟨reply, listed⟩ := listKeys_restocked answer.order
          (⟨pointerAt state.shared.publications version⟩ : AccessCache) stocked answer.keys
        rw [listed]
        simp [unpublished]

end Interleaved
end NamespaceLister

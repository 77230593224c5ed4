/-
Go maps.

A map value is a finite map without an order of its keys.  A map under
construction that is later ranged over is kept as an association list, and the
order in which the runtime visits it is a parameter: `RangeOrder` says only that
every entry is visited once.
-/

import Mathlib.Data.Finmap

namespace NamespaceLister.Library

universe u v

/-- A Go map from `K` to `V`.  A map that may be nil is an `Option` of it. -/
abbrev GoMap (K : Type u) (V : Type v) := Finmap (fun _ : K => V)

theorem GoMap.lookup_assign {K : Type u} {V : Type v} [DecidableEq K] (stored : GoMap K V)
    (key other : K) (value : V) :
    (stored.insert key value).lookup other =
      if other = key then some value else stored.lookup other := by
  by_cases same : other = key
  · subst other
    rw [if_pos rfl, Finmap.lookup_insert]
  · rw [if_neg same, Finmap.lookup_insert_of_ne stored same]

theorem GoMap.lookup_delete {K : Type u} {V : Type v} [DecidableEq K] (stored : GoMap K V)
    (key other : K) :
    (stored.erase key).lookup other = if other = key then none else stored.lookup other := by
  by_cases same : other = key
  · subst other
    rw [if_pos rfl, Finmap.lookup_erase]
  · rw [if_neg same, Finmap.lookup_erase_ne same]

def GoMap.assignAll {K : Type u} {V : Type v} [DecidableEq K]
    (entries : List (Sigma fun _ : K => V)) (stored : GoMap K V) : GoMap K V :=
  entries.foldl (fun stored entry => stored.insert entry.1 entry.2) stored

theorem GoMap.lookup_assignAll {K : Type u} {V : Type v} [DecidableEq K]
    (entries : List (Sigma fun _ : K => V)) (distinct : entries.NodupKeys) (stored : GoMap K V)
    (key : K) :
    (GoMap.assignAll entries stored).lookup key =
      (entries.dlookup key).or (stored.lookup key) := by
  unfold GoMap.assignAll
  induction entries generalizing stored with
  | nil => rfl
  | cons entry rest ih =>
      obtain ⟨name, value⟩ := entry
      rw [List.nodupKeys_cons] at distinct
      rw [List.foldl_cons, ih distinct.2, GoMap.lookup_assign]
      by_cases same : key = name
      · subst key
        rw [if_pos rfl, List.dlookup_eq_none.mpr distinct.1, List.dlookup_cons_eq, Option.none_or,
          Option.some_or]
      · rw [if_neg same, List.dlookup_cons_ne rest ⟨name, value⟩ same]

/-- The order in which one `range` loop visits the values of a map. -/
structure RangeOrder (E : Type v) where
  arrange : List E → List E
  perm : ∀ items, (arrange items).Perm items

def RangeOrder.asKept (E : Type v) : RangeOrder E :=
  { arrange := id
    perm := fun items => List.Perm.refl items }

section FirstWins

variable {I : Type u} {E : Type v} [DecidableEq I]

def insertNew (idFunc : E → I) (known : AList (fun _ : I => E)) (item : E) :
    AList (fun _ : I => E) :=
  if (known.lookup (idFunc item)).isSome then known
  else known.insert (idFunc item) item

def mapValues (known : AList (fun _ : I => E)) : List E :=
  known.entries.map Sigma.snd

def Keyed (idFunc : E → I) (known : AList (fun _ : I => E)) : Prop :=
  ∀ entry ∈ known.entries, entry.1 = idFunc entry.2

omit [DecidableEq I] in
theorem keyed_empty (idFunc : E → I) : Keyed idFunc ∅ := by
  intro entry member
  cases member

theorem lookup_insertNew (idFunc : E → I) (known : AList (fun _ : I => E)) (item : E)
    (key : I) :
    (insertNew idFunc known item).lookup key =
      (known.lookup key).or (if idFunc item = key then some item else none) := by
  unfold insertNew
  by_cases same : idFunc item = key
  · subst key
    rw [if_pos rfl]
    cases found : known.lookup (idFunc item) with
    | none => simp only [Option.isSome_none, Bool.false_eq_true, if_false,
        AList.lookup_insert, Option.none_or]
    | some earlier => simp only [Option.isSome_some, if_true, found, Option.some_or]
  · rw [if_neg same, Option.or_none]
    split
    · rfl
    · exact AList.lookup_insert_ne (fun equal => same equal.symm)

theorem keyed_insertNew (idFunc : E → I) (known : AList (fun _ : I => E)) (item : E)
    (keyed : Keyed idFunc known) : Keyed idFunc (insertNew idFunc known item) := by
  intro entry member
  obtain ⟨key, value⟩ := entry
  have found : (insertNew idFunc known item).lookup key = some value :=
    AList.mem_lookup_iff.mpr member
  rw [lookup_insertNew, Option.or_eq_some_iff] at found
  rcases found with earlier | ⟨_, added⟩
  · exact keyed ⟨key, value⟩ (AList.mem_lookup_iff.mp earlier)
  · split at added
    · rename_i same
      cases added
      exact same.symm
    · cases added

/-- After a pass over `items` each identifier holds what it held before, or
else the first of the items that has it. -/
theorem lookup_foldl_insertNew (idFunc : E → I) (items : List E)
    (known : AList (fun _ : I => E)) (key : I) :
    (items.foldl (insertNew idFunc) known).lookup key =
      (known.lookup key).or (items.find? (fun item => idFunc item = key)) := by
  induction items generalizing known with
  | nil => simp only [List.foldl_nil, List.find?_nil, Option.or_none]
  | cons head tail ih =>
      rw [List.foldl_cons, ih, lookup_insertNew, Option.or_assoc]
      congr 1
      by_cases same : idFunc head = key
      · rw [if_pos same, List.find?_cons_of_pos (by simpa using same), Option.some_or]
      · rw [if_neg same, List.find?_cons_of_neg (by simpa using same), Option.none_or]

theorem keyed_foldl_insertNew (idFunc : E → I) (items : List E)
    (known : AList (fun _ : I => E)) (keyed : Keyed idFunc known) :
    Keyed idFunc (items.foldl (insertNew idFunc) known) := by
  induction items generalizing known with
  | nil => exact keyed
  | cons head tail ih => exact ih _ (keyed_insertNew idFunc known head keyed)

omit [DecidableEq I] in
theorem mapValues_ids (idFunc : E → I) (known : AList (fun _ : I => E))
    (keyed : Keyed idFunc known) : (mapValues known).map idFunc = known.keys := by
  unfold mapValues
  rw [List.map_map]
  exact List.map_congr_left (fun entry member => (keyed entry member).symm)

omit [DecidableEq I] in
theorem mapValues_ids_nodup (idFunc : E → I) (known : AList (fun _ : I => E))
    (keyed : Keyed idFunc known) : ((mapValues known).map idFunc).Nodup := by
  rw [mapValues_ids idFunc known keyed]
  exact known.keys_nodup

theorem mem_mapValues (idFunc : E → I) (known : AList (fun _ : I => E))
    (keyed : Keyed idFunc known) (item : E) :
    item ∈ mapValues known ↔ known.lookup (idFunc item) = some item := by
  unfold mapValues
  rw [List.mem_map]
  constructor
  · rintro ⟨entry, member, rfl⟩
    rw [← keyed entry member]
    exact AList.mem_lookup_iff.mpr member
  · intro found
    exact ⟨⟨idFunc item, item⟩, AList.mem_lookup_iff.mp found, rfl⟩

end FirstWins

/-! ### Lists of values with distinct keys -/

section Keyed

variable {α β : Type u} {Key : Type v}

theorem nodup_keys_filterMap (keyOf : α → Key) (keyAfter : β → Key) (f : α → Option β)
    (keeps : ∀ item result, f item = some result → keyAfter result = keyOf item)
    (items : List α) (distinct : (items.map keyOf).Nodup) :
    ((items.filterMap f).map keyAfter).Nodup := by
  have sublist : ((items.filterMap f).map keyAfter).Sublist (items.map keyOf) := by
    clear distinct
    induction items with
    | nil => exact List.Sublist.slnil
    | cons head tail ih =>
        cases found : f head with
        | none =>
            rw [List.filterMap_cons_none found, List.map_cons]
            exact List.Sublist.cons _ ih
        | some result =>
            rw [List.filterMap_cons_some found, List.map_cons, List.map_cons,
              keeps head result found]
            exact List.Sublist.cons_cons _ ih
  exact distinct.sublist sublist

theorem find_sameMembers [DecidableEq Key] (keyOf : α → Key) {first second : List α}
    (distinct : (second.map keyOf).Nodup) (same : ∀ item, item ∈ first ↔ item ∈ second)
    (key : Key) :
    first.find? (fun item => keyOf item = key) = second.find? (fun item => keyOf item = key) := by
  cases found : first.find? (fun item => keyOf item = key) with
  | none =>
      symm
      rw [List.find?_eq_none] at found ⊢
      intro item member
      exact found item ((same item).mpr member)
  | some item =>
      have member := (same item).mp (List.mem_of_find?_eq_some found)
      have keyed : keyOf item = key := by simpa using List.find?_some found
      cases other : second.find? (fun item => keyOf item = key) with
      | none =>
          rw [List.find?_eq_none] at other
          exact absurd (by simpa using keyed) (other item member)
      | some twin =>
          have keyedTwin : keyOf twin = key := by simpa using List.find?_some other
          rw [List.inj_on_of_nodup_map distinct member (List.mem_of_find?_eq_some other)
            (keyed.trans keyedTwin.symm)]

theorem find_filterMap [DecidableEq Key] (keyOf : α → Key) (keyAfter : β → Key)
    (f : α → Option β)
    (keeps : ∀ item result, f item = some result → keyAfter result = keyOf item)
    (items : List α) (distinct : (items.map keyOf).Nodup) (key : Key) :
    (items.filterMap f).find? (fun result => keyAfter result = key) =
      (items.find? (fun item => keyOf item = key)).bind f := by
  induction items with
  | nil => rfl
  | cons head tail ih =>
      rw [List.map_cons, List.nodup_cons] at distinct
      by_cases same : keyOf head = key
      · rw [List.find?_cons_of_pos (by simpa using same), Option.bind_some]
        cases found : f head with
        | none =>
            -- the key was the head's alone, so nothing later has it
            rw [List.filterMap_cons_none found, ih distinct.2]
            have absent : tail.find? (fun item => keyOf item = key) = none := by
              rw [List.find?_eq_none]
              intro item inTail equal
              apply distinct.1
              rw [same, ← of_decide_eq_true equal]
              exact List.mem_map_of_mem inTail
            rw [absent]
            rfl
        | some result =>
            rw [List.filterMap_cons_some found]
            have kept : keyAfter result = key := (keeps head result found).trans same
            rw [List.find?_cons_of_pos (by simpa using kept)]
      · rw [List.find?_cons_of_neg (by simpa using same), ← ih distinct.2]
        cases found : f head with
        | none => rw [List.filterMap_cons_none found]
        | some result =>
            rw [List.filterMap_cons_some found]
            have moved : keyAfter result ≠ key := by
              rw [keeps head result found]
              exact same
            rw [List.find?_cons_of_neg (by simpa using moved)]

end Keyed
end NamespaceLister.Library

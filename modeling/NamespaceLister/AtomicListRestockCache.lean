/-
The key-value cache behind an atomic pointer.

The cache stays generic in its keys, its elements and the identifier function
that `newAtomicListRestockCache` fixes.  `listKeys` is the exported `List`; its
three paths (no key, one key, several keys) are kept apart, since only the last
one removes duplicates and only it dereferences the pointer unchecked.
-/

import NamespaceLister.Resources

namespace NamespaceLister

open Library

universe u v w

/-- The identifier function is fixed when the cache is built. -/
structure AtomicListRestockCache (K : Type u) {E : Type v} {I : Type w}
    (idFunc : E → I) where
  data : Option (GoMap K (List E))

namespace AtomicListRestockCache

variable {K : Type u} {E : Type v} {I : Type w} [DecidableEq K] [DecidableEq I]
variable {idFunc : E → I}

def newAtomicListRestockCache (K : Type u) {E : Type v} {I : Type w} (idFunc : E → I) :
    AtomicListRestockCache K idFunc :=
  { data := none }

def restock (_cache : AtomicListRestockCache K idFunc) (data : GoMap K (List E)) :
    AtomicListRestockCache K idFunc :=
  { data := some data }

/-- The single-key path hands back the stored slice; `none` is the nil slice. -/
def list (cache : AtomicListRestockCache K idFunc) (key : K) : Option (List E) :=
  match cache.data with
  | none => none
  | some stored => stored.lookup key

def collect (idFunc : E → I) (stored : GoMap K (List E)) (known : AList (fun _ : I => E))
    (key : K) : AList (fun _ : I => E) :=
  match stored.lookup key with
  | none => known
  | some items => items.foldl (insertNew idFunc) known

def listAll (order : RangeOrder E) (cache : AtomicListRestockCache K idFunc)
    (keys : List K) : Except Panic (Option (List E)) :=
  match keys, cache.data with
  | [], _ => .ok (some (order.arrange []))
  | _ :: _, none => .error .nilDereference
  | _ :: _, some stored =>
      .ok (some (order.arrange (mapValues (keys.foldl (collect idFunc stored) ∅))))

/-- The exported `List`. -/
def listKeys (order : RangeOrder E) (cache : AtomicListRestockCache K idFunc)
    (keys : List K) : Except Panic (Option (List E)) :=
  match keys with
  | [] => .ok none
  | [key] => .ok (cache.list key)
  | _ :: _ :: _ => cache.listAll order keys

/-! ### First-wins union -/

def underKeys (stored : GoMap K (List E)) (keys : List K) : List E :=
  keys.flatMap (fun key => (stored.lookup key).getD [])

theorem foldl_collect (stored : GoMap K (List E)) (keys : List K)
    (known : AList (fun _ : I => E)) :
    keys.foldl (collect idFunc stored) known =
      (underKeys stored keys).foldl (insertNew idFunc) known := by
  induction keys generalizing known with
  | nil => rfl
  | cons key rest ih =>
      rw [List.foldl_cons, ih]
      unfold underKeys
      rw [List.flatMap_cons, List.foldl_append]
      congr 1
      unfold collect
      cases stored.lookup key with
      | none => rfl
      | some items => rfl

/-- `items` holds, for each identifier that is reached, the first element that
has it, and nothing else. -/
structure FirstWins (idFunc : E → I) (reached items : List E) : Prop where
  ids_nodup : (items.map idFunc).Nodup
  mem_iff : ∀ item, item ∈ items ↔
    reached.find? (fun other => idFunc other = idFunc item) = some item

omit [DecidableEq K] in
private theorem find_first_of_nodup (items : List E) (distinct : (items.map idFunc).Nodup)
    (item : E) :
    item ∈ items ↔ items.find? (fun other => idFunc other = idFunc item) = some item := by
  induction items with
  | nil => simp only [List.not_mem_nil, List.find?_nil, reduceCtorEq]
  | cons head tail ih =>
      rw [List.map_cons, List.nodup_cons] at distinct
      by_cases same : idFunc head = idFunc item
      · rw [List.find?_cons_of_pos (by simpa using same), List.mem_cons, Option.some.injEq]
        constructor
        · intro member
          rcases member with atHead | inTail
          · exact atHead.symm
          · exact absurd (List.mem_map.mpr ⟨item, inTail, same.symm⟩) distinct.1
        · intro atHead
          exact Or.inl atHead.symm
      · rw [List.find?_cons_of_neg (by simpa using same), List.mem_cons, ← ih distinct.2]
        constructor
        · intro member
          rcases member with atHead | inTail
          · exact absurd (congrArg idFunc atHead.symm) same
          · exact inTail
        · exact Or.inr

omit [DecidableEq K] in
theorem firstWins_self (items : List E) (distinct : (items.map idFunc).Nodup) :
    FirstWins idFunc items items :=
  ⟨distinct, find_first_of_nodup items distinct⟩

private theorem firstWins_collected (order : RangeOrder E) (stored : GoMap K (List E))
    (keys : List K) :
    FirstWins idFunc (underKeys stored keys)
      (order.arrange (mapValues (keys.foldl (collect idFunc stored) ∅))) := by
  rw [foldl_collect]
  have keyed := keyed_foldl_insertNew idFunc (underKeys stored keys) ∅ (keyed_empty idFunc)
  have visited := order.perm
    (mapValues ((underKeys stored keys).foldl (insertNew idFunc) ∅))
  constructor
  · exact ((visited.map idFunc).nodup_iff).mpr (mapValues_ids_nodup idFunc _ keyed)
  · intro item
    rw [visited.mem_iff, mem_mapValues idFunc _ keyed, lookup_foldl_insertNew,
      AList.lookup_empty, Option.none_or]

theorem listKeys_several (order : RangeOrder E) (cache : AtomicListRestockCache K idFunc)
    (stored : GoMap K (List E)) (restocked : cache.data = some stored) (keys : List K)
    (several : 2 ≤ keys.length) :
    ∃ items, cache.listKeys order keys = .ok (some items) ∧
      FirstWins idFunc (underKeys stored keys) items := by
  match keys, several with
  | first :: second :: rest, _ =>
      refine ⟨order.arrange (mapValues
        ((first :: second :: rest).foldl (collect idFunc stored) ∅)), ?_, ?_⟩
      · simp only [listKeys, listAll, restocked]
      · exact firstWins_collected order stored (first :: second :: rest)

/-- On a restocked cache every path of `List` returns the first-wins union of
the lists under the keys.  The single-key path relies on the stored list having
distinct identifiers. -/
theorem listKeys_firstWins (order : RangeOrder E) (cache : AtomicListRestockCache K idFunc)
    (stored : GoMap K (List E)) (restocked : cache.data = some stored) (keys : List K)
    (distinct : ∀ key items, stored.lookup key = some items → (items.map idFunc).Nodup) :
    ∃ reply, cache.listKeys order keys = .ok reply ∧
      FirstWins idFunc (underKeys stored keys) (reply.getD []) := by
  match keys with
  | [] =>
      refine ⟨none, rfl, ?_, ?_⟩
      · exact List.nodup_nil
      · intro item
        simp only [Option.getD_none, List.not_mem_nil, underKeys, List.flatMap_nil,
          List.find?_nil, reduceCtorEq]
  | [key] =>
      refine ⟨stored.lookup key, ?_, ?_⟩
      · simp only [listKeys, list, restocked]
      · have listed : underKeys stored [key] = (stored.lookup key).getD [] := by
          simp only [underKeys, List.flatMap_cons, List.flatMap_nil, List.append_nil]
        have nodup : (((stored.lookup key).getD []).map idFunc).Nodup := by
          cases found : stored.lookup key with
          | none => exact List.nodup_nil
          | some items => exact distinct key items found
        rw [listed]
        exact firstWins_self _ nodup
  | first :: second :: rest =>
      obtain ⟨items, listed, union⟩ := listKeys_several order cache stored restocked
        (first :: second :: rest) (Nat.le_add_left 2 rest.length)
      exact ⟨some items, listed, union⟩

omit [DecidableEq K] in
theorem FirstWins.mem_ids_iff {reached items : List E} (union : FirstWins idFunc reached items)
    (identifier : I) : identifier ∈ items.map idFunc ↔ identifier ∈ reached.map idFunc := by
  constructor
  · intro member
    obtain ⟨item, inItems, same⟩ := List.mem_map.mp member
    subst identifier
    exact List.mem_map_of_mem (List.mem_of_find?_eq_some ((union.mem_iff item).mp inItems))
  · intro member
    obtain ⟨item, inReached, same⟩ := List.mem_map.mp member
    subst identifier
    cases first : reached.find? (fun other => idFunc other = idFunc item) with
    | none =>
        have refused := List.find?_eq_none.mp first item inReached
        simp only [decide_true, not_true_eq_false] at refused
    | some winner =>
        have same : idFunc winner = idFunc item := by
          simpa using List.find?_some first
        have kept : winner ∈ items := by
          rw [union.mem_iff winner, same]
          exact first
        rw [← same]
        exact List.mem_map_of_mem kept

omit [DecidableEq K] in
theorem FirstWins.perm {reached first second : List E}
    (unionFirst : FirstWins idFunc reached first)
    (unionSecond : FirstWins idFunc reached second) : first.Perm second := by
  rw [List.perm_ext_iff_of_nodup unionFirst.ids_nodup.of_map unionSecond.ids_nodup.of_map]
  intro item
  rw [unionFirst.mem_iff, unionSecond.mem_iff]

theorem listKeys_ids (order : RangeOrder E) (cache : AtomicListRestockCache K idFunc)
    (stored : GoMap K (List E)) (restocked : cache.data = some stored) (keys : List K) :
    ∃ reply, cache.listKeys order keys = .ok reply ∧
      ∀ identifier, identifier ∈ (reply.getD []).map idFunc ↔
        identifier ∈ (underKeys stored keys).map idFunc := by
  match keys with
  | [] => exact ⟨none, rfl, fun _identifier => Iff.rfl⟩
  | [key] =>
      refine ⟨stored.lookup key, ?_, ?_⟩
      · simp only [listKeys, list, restocked]
      · intro identifier
        simp only [underKeys, List.flatMap_cons, List.flatMap_nil, List.append_nil]
  | first :: second :: rest =>
      obtain ⟨items, listed, union⟩ := listKeys_several order cache stored restocked
        (first :: second :: rest) (Nat.le_add_left 2 rest.length)
      exact ⟨some items, listed, fun identifier => union.mem_ids_iff identifier⟩

/-! ### One more key -/

/-- Among `first`, `added` and `rest`, no element of `added` takes the place of
another one: its identifier is reached before, or its first element afterwards is
the same. -/
def Unobtrusive (idFunc : E → I) (first added rest : List E) : Prop :=
  ∀ entry ∈ added, (∃ earlier ∈ first, idFunc earlier = idFunc entry) ∨
    rest.find? (fun other => idFunc other = idFunc entry) = some entry

omit [DecidableEq K] in
private theorem find_none_of_unreached {first : List E} {entry : E}
    (unreached : ¬∃ earlier ∈ first, idFunc earlier = idFunc entry) :
    first.find? (fun other => idFunc other = idFunc entry) = none := by
  apply List.find?_eq_none.mpr
  intro earlier member same
  exact unreached ⟨earlier, member, of_decide_eq_true same⟩

omit [DecidableEq K] in
theorem Unobtrusive.find {first added rest : List E}
    (unobtrusive : Unobtrusive idFunc first added rest) (identifier : I) :
    (first ++ (added ++ rest)).find? (fun other => idFunc other = identifier) =
      (first ++ rest).find? (fun other => idFunc other = identifier) := by
  rw [List.find?_append, List.find?_append, List.find?_append]
  cases reached : first.find? (fun other => idFunc other = identifier) with
  | some earlier => rfl
  | none =>
      cases new : added.find? (fun other => idFunc other = identifier) with
      | none => rfl
      | some entry =>
          have same : idFunc entry = identifier := by
            simpa only [decide_eq_true_eq] using List.find?_some new
          subst identifier
          rcases unobtrusive entry (List.mem_of_find?_eq_some new) with before | after
          · obtain ⟨earlier, member, equal⟩ := before
            have refused := List.find?_eq_none.mp reached earlier member
            exact absurd (decide_eq_true equal) refused
          · rw [after]
            rfl

omit [DecidableEq K] in
/-- The union is the same up to order exactly when nothing is overtaken. -/
theorem FirstWins.perm_insert_iff {first added rest items inserted : List E}
    (union : FirstWins idFunc (first ++ rest) items)
    (unionInserted : FirstWins idFunc (first ++ (added ++ rest)) inserted)
    (distinct : (added.map idFunc).Nodup) :
    items.Perm inserted ↔ Unobtrusive idFunc first added rest := by
  constructor
  · intro permuted entry member
    by_cases before : ∃ earlier ∈ first, idFunc earlier = idFunc entry
    · exact Or.inl before
    · right
      have unreached := find_none_of_unreached before
      have own : added.find? (fun other => idFunc other = idFunc entry) = some entry :=
        ((firstWins_self added distinct).mem_iff entry).mp member
      have shown : entry ∈ inserted := by
        rw [unionInserted.mem_iff, List.find?_append, List.find?_append, unreached, own]
        rfl
      have kept := (union.mem_iff entry).mp (permuted.mem_iff.mpr shown)
      rw [List.find?_append, unreached] at kept
      exact kept
  · intro unobtrusive
    apply union.perm
    constructor
    · exact unionInserted.ids_nodup
    · intro item
      rw [unionInserted.mem_iff, unobtrusive.find]

theorem underKeys_append (stored : GoMap K (List E)) (before after : List K) :
    underKeys stored (before ++ after) = underKeys stored before ++ underKeys stored after :=
  List.flatMap_append

theorem underKeys_insert (stored : GoMap K (List E)) (added : K) (before after : List K) :
    underKeys stored (before ++ added :: after) =
      underKeys stored before ++ ((stored.lookup added).getD [] ++ underKeys stored after) := by
  rw [underKeys_append]
  rfl

omit [DecidableEq I] in
private theorem mem_underKeys (stored : GoMap K (List E)) (keys : List K) (key : K)
    (lookedUp : key ∈ keys) (entry : E) (member : entry ∈ (stored.lookup key).getD []) :
    entry ∈ underKeys stored keys :=
  List.mem_flatMap.mpr ⟨key, lookedUp, member⟩

theorem unobtrusive_of_neutral (stored : GoMap K (List E)) (added : K) (before after : List K)
    (neutral : stored.lookup added = none ∨ added ∈ before) :
    Unobtrusive idFunc (underKeys stored before) ((stored.lookup added).getD [])
      (underKeys stored after) := by
  intro entry member
  rcases neutral with absent | repeated
  · rw [absent] at member
    cases member
  · exact Or.inl ⟨entry, mem_underKeys stored before added repeated entry member, rfl⟩

end AtomicListRestockCache
end NamespaceLister

/-
Groups that should make no difference.

A request looks up the user's subject and one key for each group.  A group that
has no entry, or one that is listed already, adds nothing to the first-wins union.
It may still change the reply: with the first group the lookup leaves the
single-key path, which hands out a nil slice for an absent key, for the path that
builds a slice of its own, and a repeated group that comes first takes over the
entries of the groups it overtakes.
-/

import NamespaceLister.SubjectNamespaceLister

namespace NamespaceLister

open Library
open AtomicListRestockCache

universe u v w

/-! ### The encoding of a slice -/

/-- A slice in JSON: a nil slice is null, an empty one an array without elements. -/
inductive JsonItems (E : Type v) where
  | null
  | array (elements : List E)
deriving DecidableEq

def encodeItems {E : Type v} : Option (List E) → JsonItems E
  | none => .null
  | some elements => .array elements

def JsonItems.SameUpToOrder {E : Type v} : JsonItems E → JsonItems E → Prop
  | .null, .null => True
  | .array first, .array second => first.Perm second
  | _, _ => False

section Listing

variable {K : Type u} {E : Type v} {I : Type w} [DecidableEq K] [DecidableEq I]
variable {idFunc : E → I}

/-- Of the lookups with some key, only that of a single absent key gives nil. -/
theorem listKeys_nil_iff (order : RangeOrder E) (cache : AtomicListRestockCache K idFunc)
    (stored : GoMap K (List E)) (restocked : cache.data = some stored) (key : K)
    (rest : List K) :
    cache.listKeys order (key :: rest) = .ok none ↔ rest = [] ∧ stored.lookup key = none := by
  cases rest with
  | nil =>
      simp only [listKeys, AtomicListRestockCache.list, restocked, Except.ok.injEq, true_and]
  | cons second others =>
      simp [listKeys, listAll, restocked]

theorem listKeys_insert_same_iff (order orderAfter : RangeOrder E)
    (cache : AtomicListRestockCache K idFunc) (stored : GoMap K (List E))
    (restocked : cache.data = some stored)
    (distinct : ∀ key items, stored.lookup key = some items → (items.map idFunc).Nodup)
    (key added : K) (before after : List K) :
    ∃ reply replyAfter,
      cache.listKeys order (key :: (before ++ after)) = .ok reply ∧
      cache.listKeys orderAfter (key :: (before ++ added :: after)) = .ok replyAfter ∧
      ((encodeItems reply).SameUpToOrder (encodeItems replyAfter) ↔
        (before ++ after ≠ [] ∨ stored.lookup key ≠ none) ∧
        Unobtrusive idFunc (underKeys stored (key :: before))
          ((stored.lookup added).getD []) (underKeys stored after)) := by
  obtain ⟨reply, listed, union⟩ :=
    listKeys_firstWins order cache stored restocked (key :: (before ++ after)) distinct
  obtain ⟨items, listedAfter, unionAfter⟩ :=
    listKeys_several orderAfter cache stored restocked (key :: (before ++ added :: after))
      (by simp only [List.length_cons, List.length_append]; omega)
  refine ⟨reply, some items, listed, listedAfter, ?_⟩
  have addedDistinct : (((stored.lookup added).getD []).map idFunc).Nodup := by
    cases found : stored.lookup added with
    | none => exact List.nodup_nil
    | some own => exact distinct added own found
  rw [← List.cons_append, underKeys_append] at union
  rw [← List.cons_append, underKeys_insert] at unionAfter
  have nil := listKeys_nil_iff order cache stored restocked key (before ++ after)
  rw [listed, Except.ok.injEq] at nil
  cases reply with
  | none =>
      -- null on one side and an array on the other
      obtain ⟨alone, absent⟩ := nil.mp rfl
      constructor
      · intro same
        cases same
      · intro both
        rcases both.1 with grouped | present
        · exact absurd alone grouped
        · exact absurd absent present
  | some elements =>
      have same : elements.Perm items ↔ Unobtrusive idFunc (underKeys stored (key :: before))
          ((stored.lookup added).getD []) (underKeys stored after) :=
        FirstWins.perm_insert_iff union unionAfter addedDistinct
      have several : before ++ after ≠ [] ∨ stored.lookup key ≠ none := by
        rw [← not_and_or]
        intro both
        cases nil.mpr both
      exact same.trans (and_iff_right several).symm

end Listing

/-! ### Replies to a user and to the same user with one more group -/

def NamespaceList.jsonItems (reply : NamespaceList) : JsonItems Namespace :=
  encodeItems reply.items

theorem Synch_lists_distinct (rt : Runtime) (s : SynchronizedAccessCache)
    (obs : SynchObservations) (nn : List Namespace) (listed : obs.listed = .ok nn)
    (succeeded : (s.Synch rt obs).2 = none) (distinct : (nn.map Namespace.name).Nodup) :
    ∃ data, (s.Synch rt obs).1.accessCache.data = some data ∧
      ∀ key items, data.lookup key = some items → (items.map Namespace.name).Nodup := by
  refine ⟨_, Synch_published rt s obs nn listed succeeded, ?_⟩
  apply accessOf_lists_distinct
  rw [observedPairs_names]
  exact distinct

/-- A group put anywhere among those of a request leaves the encoded items alone
exactly when the lookup was not of a single absent key and the group has no entry,
is in front already, or overtakes nothing. -/
theorem neutral_group_same_items_iff (order orderAfter : RangeOrder Namespace)
    (cache : AccessCache) (data : AccessData) (restocked : cache.data = some data)
    (distinct : ∀ key items, data.lookup key = some items → (items.map Namespace.name).Nodup)
    (username : GoString) (sub : Subject) (parsed : parseUsername username = .ok sub)
    (before after : List GoString) (group : GoString) :
    ∃ reply replyAfter,
      listNamespaces order cache username (before ++ after) = .ok reply ∧
      listNamespaces orderAfter cache username (before ++ group :: after) = .ok replyAfter ∧
      (reply.jsonItems.SameUpToOrder replyAfter.jsonItems ↔
        (before ++ after ≠ [] ∨ data.lookup sub ≠ none) ∧
        (data.lookup (groupSubject group) = none ∨ group ∈ before ∨
          Unobtrusive Namespace.name (underKeys data (sub :: before.map groupSubject))
            ((data.lookup (groupSubject group)).getD [])
            (underKeys data (after.map groupSubject)))) := by
  obtain ⟨items, itemsAfter, listed, listedAfter, same⟩ :=
    listKeys_insert_same_iff order orderAfter cache data restocked distinct sub
      (groupSubject group) (before.map groupSubject) (after.map groupSubject)
  rw [← List.map_append] at listed same
  rw [← List.map_cons, ← List.map_append] at listedAfter
  refine ⟨_, _, listNamespaces_of_listKeys order cache username _ sub parsed items listed,
    listNamespaces_of_listKeys orderAfter cache username _ sub parsed itemsAfter listedAfter, ?_⟩
  change (encodeItems items).SameUpToOrder (encodeItems itemsAfter) ↔ _
  rw [same, Ne, List.map_eq_nil_iff]
  apply and_congr_right
  intro _listed
  constructor
  · intro unobtrusive
    exact Or.inr (Or.inr unobtrusive)
  · intro quiet
    rcases quiet with absent | repeated | unobtrusive
    · exact unobtrusive_of_neutral data _ _ _ (Or.inl absent)
    · have lookedUp : groupSubject group ∈ sub :: before.map groupSubject :=
        List.mem_cons_of_mem sub (List.mem_map_of_mem repeated)
      exact unobtrusive_of_neutral data _ _ _ (Or.inr lookedUp)
    · exact unobtrusive

private def bobAndAdmins : SynchObservations :=
  steady [bareNamespace "team-a"] (fun _ => none)
    (fun _ => ([userSubject "bob", groupSubject "admins"], none))

private def bobAndAdminsCache : AccessCache :=
  (SynchronizedAccessCache.new.Synch Runtime.reference bobAndAdmins).1.accessCache

/-- Alice has no access and no groups; then also the group of the developers, which
has no entry. -/
theorem neutral_group_null_or_empty :
    (SynchronizedAccessCache.new.Synch Runtime.reference bobAndAdmins).2 = none ∧
    bobAndAdminsCache.list (groupSubject "developers") = none ∧
    ∃ reply replyAfter,
      listNamespaces (RangeOrder.asKept Namespace) bobAndAdminsCache "alice" [] = .ok reply ∧
      listNamespaces (RangeOrder.asKept Namespace) bobAndAdminsCache "alice" ["developers"] =
        .ok replyAfter ∧
      reply.jsonItems = .null ∧ replyAfter.jsonItems = .array [] ∧
      ¬reply.jsonItems.SameUpToOrder replyAfter.jsonItems := by
  refine ⟨rfl, rfl, _, _, rfl, rfl, rfl, rfl, ?_⟩
  intro same
  exact same

theorem neutral_group_same_items_bob :
    ∃ reply replyAfter,
      listNamespaces (RangeOrder.asKept Namespace) bobAndAdminsCache "bob" [] = .ok reply ∧
      listNamespaces (RangeOrder.asKept Namespace) bobAndAdminsCache "bob" ["developers"] =
        .ok replyAfter ∧
      reply.jsonItems.SameUpToOrder replyAfter.jsonItems := by
  obtain ⟨data, restocked, distinct⟩ :=
    Synch_lists_distinct Runtime.reference SynchronizedAccessCache.new bobAndAdmins
      [bareNamespace "team-a"] rfl rfl (by decide)
  have stored : ∀ key, data.lookup key = bobAndAdminsCache.list key := by
    intro key
    unfold bobAndAdminsCache AtomicListRestockCache.list
    rw [restocked]
  obtain ⟨reply, replyAfter, listed, listedAfter, same⟩ :=
    neutral_group_same_items_iff (RangeOrder.asKept Namespace) (RangeOrder.asKept Namespace)
      bobAndAdminsCache data restocked distinct "bob" (userSubject "bob") rfl [] [] "developers"
  refine ⟨reply, replyAfter, listed, listedAfter, same.mpr ⟨Or.inr ?_, Or.inl ?_⟩⟩
  · rw [stored]
    nofun
  · rw [stored]
    rfl

private def bothGroupsCache : AccessCache :=
  (SynchronizedAccessCache.new.Synch Runtime.reference
    (steady [bareNamespace "team-a"] (fun _ => none)
      (fun _ => ([groupSubject "admins", groupSubject "developers"], none)))).1.accessCache

-- The group of the admins, repeated ahead of another group with access, takes over
-- the entry of the namespace.
example :
    ∃ reply replyAfter,
      listNamespaces (RangeOrder.asKept Namespace) bothGroupsCache "alice"
        ["developers", "admins"] = .ok reply ∧
      listNamespaces (RangeOrder.asKept Namespace) bothGroupsCache "alice"
        ["admins", "developers", "admins"] = .ok replyAfter ∧
      ¬reply.jsonItems.SameUpToOrder replyAfter.jsonItems := by
  refine ⟨_, _, rfl, rfl, ?_⟩
  change ¬List.Perm [_] [_]
  rw [List.singleton_perm_singleton]
  decide

end NamespaceLister

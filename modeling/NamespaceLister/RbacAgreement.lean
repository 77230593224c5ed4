/-
Cached replies against the RBAC decision.

The cache matches subjects by equality of four fields; RBAC matches a user by
name, a group by name and a service account by its username.  For ordinary
usernames the two agree.  For service accounts the single key computed by
`parseUsername` misses the other shapes a binding may use, and reads only two
segments of the username.
-/

import NamespaceLister.Rbac
import NamespaceLister.SubjectNamespaceLister

namespace NamespaceLister

open Library

/-! ### Usernames and their segments -/

theorem parseUsername_ordinary (username : GoString)
    (ordinary : GoString.hasPrefix username "system:serviceaccount:" = false) :
    parseUsername username = .ok (userSubject username) := by
  unfold parseUsername
  rw [ordinary]
  rfl

theorem split_serviceAccount (rest : GoString) :
    GoString.split (GoString.ofLiteral "system:serviceaccount:" ++ rest) colon =
      GoString.ofLiteral "system" :: GoString.ofLiteral "serviceaccount" ::
        GoString.split rest colon := by
  have shape : GoString.ofLiteral "system:serviceaccount:" ++ rest =
      GoString.ofLiteral "system" ++
        colon :: (GoString.ofLiteral "serviceaccount" ++ colon :: rest) := rfl
  rw [shape, GoString.split_segment _ _ _ (by decide), GoString.split_segment _ _ _ (by decide)]

private theorem makeUsername_shape (nsName name : GoString) :
    makeUsername nsName name =
      GoString.ofLiteral "system:serviceaccount:" ++ (nsName ++ colon :: name) := by
  have separator : GoString.ofLiteral ":" = [colon] := rfl
  simp only [makeUsername, separator, List.append_assoc, List.cons_append, List.nil_append]

private theorem split_makeUsername (nsName name : GoString) (absent : colon ∉ nsName) :
    GoString.split (makeUsername nsName name) colon =
      GoString.ofLiteral "system" :: GoString.ofLiteral "serviceaccount" :: nsName ::
        GoString.split name colon := by
  rw [makeUsername_shape, split_serviceAccount, GoString.split_segment _ _ _ absent]

theorem makeUsername_hasPrefix (nsName name : GoString) :
    GoString.hasPrefix (makeUsername nsName name) "system:serviceaccount:" = true := by
  rw [GoString.hasPrefix_iff, makeUsername_shape]
  exact ⟨_, rfl⟩

theorem parseUsername_makeUsername (nsName name : GoString) (absentNs : colon ∉ nsName)
    (absentName : colon ∉ name) :
    parseUsername (makeUsername nsName name) = .ok (serviceAccountSubject nsName name) := by
  unfold parseUsername
  rw [makeUsername_hasPrefix, split_makeUsername nsName name absentNs,
    GoString.split_single name colon absentName]
  rfl

theorem parseUsername_serviceAccount (username : GoString) (sub : Subject)
    (start : GoString.hasPrefix username "system:serviceaccount:" = true)
    (parsed : parseUsername username = .ok sub) :
    ∃ nsName name tail,
      GoString.split username colon =
        GoString.ofLiteral "system" :: GoString.ofLiteral "serviceaccount" ::
          nsName :: name :: tail ∧
      sub = serviceAccountSubject nsName name := by
  obtain ⟨rest, shape⟩ := (GoString.hasPrefix_iff username _).mp start
  unfold parseUsername at parsed
  rw [start, if_pos rfl, shape, split_serviceAccount] at parsed
  rw [shape, split_serviceAccount]
  cases segments : GoString.split rest colon with
  | nil =>
      rw [segments] at parsed
      cases parsed
  | cons nsName afterNs =>
      cases afterNs with
      | nil =>
          rw [segments] at parsed
          cases parsed
      | cons name tail =>
          rw [segments] at parsed
          cases parsed
          exact ⟨nsName, name, tail, rfl, rfl⟩

/-- Exactly four segments, the third of them not empty. -/
def exactServiceAccount (username : GoString) : Bool :=
  (GoString.split username colon).length == 4 &&
    (GoString.split username colon)[2]? != some []

private theorem exactServiceAccount_iff (username nsName name : GoString)
    (tail : List GoString)
    (segments : GoString.split username colon =
      GoString.ofLiteral "system" :: GoString.ofLiteral "serviceaccount" ::
        nsName :: name :: tail) :
    exactServiceAccount username = true ↔ tail = [] ∧ nsName ≠ [] := by
  unfold exactServiceAccount
  rw [segments]
  simp

private theorem username_of_joined (username nsName name : GoString) (tail : List GoString)
    (segments : GoString.split username colon =
      GoString.ofLiteral "system" :: GoString.ofLiteral "serviceaccount" ::
        nsName :: name :: tail) :
    username =
      GoString.ofLiteral "system:serviceaccount:" ++
        [colon].intercalate (nsName :: name :: tail) := by
  have joined := GoString.join_split username colon
  have start : GoString.ofLiteral "system:serviceaccount:" =
      GoString.ofLiteral "system" ++ colon ::
        (GoString.ofLiteral "serviceaccount" ++ [colon]) := rfl
  rw [segments] at joined
  rw [← joined, start]
  simp [List.intercalate]

private theorem username_of_segments (username nsName name : GoString)
    (segments : GoString.split username colon =
      GoString.ofLiteral "system" :: GoString.ofLiteral "serviceaccount" ::
        nsName :: name :: []) :
    username = makeUsername nsName name := by
  rw [username_of_joined username nsName name [] segments, makeUsername_shape]
  simp [List.intercalate]

private theorem username_of_more_segments (username nsName name extra : GoString)
    (more : List GoString)
    (segments : GoString.split username colon =
      GoString.ofLiteral "system" :: GoString.ofLiteral "serviceaccount" ::
        nsName :: name :: extra :: more) :
    username = makeUsername nsName name ++ colon :: [colon].intercalate (extra :: more) := by
  rw [username_of_joined username nsName name (extra :: more) segments, makeUsername_shape]
  simp [List.intercalate]

/-! ### Subjects as keys -/

private theorem kinds_distinct :
    groupKind ≠ userKind ∧ serviceAccountKind ≠ userKind ∧ serviceAccountKind ≠ groupKind := by
  decide

theorem appliesToUser_user (username : GoString) (groups : List GoString) (sub : Subject)
    (nsName : GoString) (kind : sub.kind = userKind) :
    appliesToUser username groups sub nsName = true ↔ username = sub.name := by
  unfold appliesToUser
  rw [if_pos kind, decide_eq_true_eq]

theorem appliesToUser_group (username : GoString) (groups : List GoString) (sub : Subject)
    (nsName : GoString) (kind : sub.kind = groupKind) :
    appliesToUser username groups sub nsName = true ↔ sub.name ∈ groups := by
  have notUser : sub.kind ≠ userKind := by
    rw [kind]
    exact kinds_distinct.1
  unfold appliesToUser
  rw [if_neg notUser, if_pos kind, decide_eq_true_eq]

theorem appliesToUser_serviceAccount (username : GoString) (groups : List GoString)
    (sub : Subject) (nsName : GoString) (kind : sub.kind = serviceAccountKind) :
    appliesToUser username groups sub nsName = true ↔
      (if sub.nsName ≠ [] then sub.nsName else nsName) ≠ [] ∧
        username = makeUsername (if sub.nsName ≠ [] then sub.nsName else nsName) sub.name := by
  have notUser : sub.kind ≠ userKind := by
    rw [kind]
    exact kinds_distinct.2.1
  have notGroup : sub.kind ≠ groupKind := by
    rw [kind]
    exact kinds_distinct.2.2
  unfold appliesToUser
  rw [if_neg notUser, if_neg notGroup, if_pos kind, decide_eq_true_eq]

private theorem kind_of_applies (username : GoString) (groups : List GoString) (sub : Subject)
    (nsName : GoString) (applies : appliesToUser username groups sub nsName = true) :
    sub.kind = userKind ∨ sub.kind = groupKind ∨ sub.kind = serviceAccountKind := by
  by_cases user : sub.kind = userKind
  · exact Or.inl user
  · by_cases group : sub.kind = groupKind
    · exact Or.inr (Or.inl group)
    · by_cases account : sub.kind = serviceAccountKind
      · exact Or.inr (Or.inr account)
      · unfold appliesToUser at applies
        rw [if_neg user, if_neg group, if_neg account] at applies
        cases applies

theorem groupSubject_applies (username : GoString) (groups : List GoString) (nsName : GoString)
    (key : Subject) (member : key ∈ groups.map groupSubject) :
    appliesToUser username groups key nsName = true := by
  obtain ⟨group, inGroups, same⟩ := List.mem_map.mp member
  subst key
  exact (appliesToUser_group username groups (groupSubject group) nsName rfl).mpr inGroups

/-- User and group subjects as bindings carry them. -/
def plainSubject (sub : Subject) : Prop :=
  sub.kind = userKind ∨ sub.kind = groupKind → sub.apiGroup = rbacGroupName ∧ sub.nsName = []

instance (sub : Subject) : Decidable (plainSubject sub) :=
  inferInstanceAs (Decidable (_ ∨ _ → _ ∧ _))

private theorem mem_groupSubjects (groups : List GoString) (sub : Subject)
    (kind : sub.kind = groupKind) (apiGroup : sub.apiGroup = rbacGroupName)
    (nsName : sub.nsName = []) (member : sub.name ∈ groups) :
    sub ∈ groups.map groupSubject := by
  refine List.mem_map.mpr ⟨sub.name, member, ?_⟩
  cases sub
  simp only at kind apiGroup nsName
  subst kind apiGroup nsName
  rfl

theorem mem_keys_iff_applies (username : GoString) (groups : List GoString)
    (ordinary : GoString.hasPrefix username "system:serviceaccount:" = false)
    (sub : Subject) (plain : plainSubject sub) (nsName : GoString) :
    sub ∈ userSubject username :: groups.map groupSubject ↔
      appliesToUser username groups sub nsName = true := by
  constructor
  · intro member
    rcases List.mem_cons.mp member with isUser | isGroup
    · subst sub
      exact (appliesToUser_user username groups (userSubject username) nsName rfl).mpr rfl
    · exact groupSubject_applies username groups nsName sub isGroup
  · intro applies
    rcases kind_of_applies username groups sub nsName applies with user | group | account
    · have named := (appliesToUser_user username groups sub nsName user).mp applies
      obtain ⟨apiGroup, unqualified⟩ := plain (Or.inl user)
      refine List.mem_cons.mpr (Or.inl ?_)
      cases sub
      simp only at user named apiGroup unqualified
      subst user named apiGroup unqualified
      rfl
    · have named := (appliesToUser_group username groups sub nsName group).mp applies
      obtain ⟨apiGroup, unqualified⟩ := plain (Or.inr group)
      exact List.mem_cons.mpr
        (Or.inr (mem_groupSubjects groups sub group apiGroup unqualified named))
    · -- a service account subject would give the username the reserved start
      obtain ⟨_, named⟩ :=
        (appliesToUser_serviceAccount username groups sub nsName account).mp applies
      rw [named, makeUsername_hasPrefix] at ordinary
      cases ordinary

/-! ### Ordinary users -/

/-- The reply for an ordinary username is the RBAC answer: each accessible
namespace once, and nothing else. -/
theorem listNamespaces_iff_appliesToUser (rt : Runtime) (order : RangeOrder Namespace)
    (s : SynchronizedAccessCache) (nn : List Namespace) (ctxErr : Nat → Option ContextError)
    (allowed : AttributesRecord → List Subject × Option GoString)
    (distinct : (nn.map Namespace.name).Nodup)
    (plain : ∀ ns ∈ nn, ∀ sub ∈ allowedFor allowed ns, plainSubject sub)
    (succeeded : (s.Synch rt (steady nn ctxErr allowed)).2 = none)
    (username : GoString) (groups : List GoString)
    (ordinary : GoString.hasPrefix username "system:serviceaccount:" = false) :
    ∃ reply,
      listNamespaces order (s.Synch rt (steady nn ctxErr allowed)).1.accessCache
        username groups = .ok reply ∧
      reply.names.Nodup ∧
      ∀ name, name ∈ reply.names ↔
        ∃ ns ∈ nn, ns.name = name ∧
          ∃ sub ∈ allowedFor allowed ns, appliesToUser username groups sub name = true := by
  have parsed := parseUsername_ordinary username ordinary
  obtain ⟨reply, listed, union⟩ := listNamespaces_firstWins rt order s nn ctxErr allowed
    distinct succeeded username groups _ parsed
  obtain ⟨sameReply, sameListed, names⟩ := listNamespaces_names rt order s nn ctxErr allowed
    succeeded username groups _ parsed
  rw [listed] at sameListed
  cases sameListed
  refine ⟨reply, listed, union.ids_nodup, ?_⟩
  intro name
  rw [names]
  constructor
  · intro present
    obtain ⟨ns, inList, named, key, inKeys, granted⟩ := present
    refine ⟨ns, inList, named, key, granted, ?_⟩
    exact (mem_keys_iff_applies username groups ordinary key
      (plain ns inList key granted) name).mp inKeys
  · intro present
    obtain ⟨ns, inList, named, sub, granted, applies⟩ := present
    refine ⟨ns, inList, named, sub, ?_, granted⟩
    exact (mem_keys_iff_applies username groups ordinary sub
      (plain ns inList sub granted) name).mpr applies

private def twoTenants (attributes : AttributesRecord) : List Subject × Option GoString :=
  if attributes.name = GoString.ofLiteral "team-a" then
    ([userSubject "alice", groupSubject "devs", userSubject "alice"], none)
  else ([groupSubject "ops"], some (GoString.ofLiteral "clusterrole not found"))

theorem listNamespaces_iff_appliesToUser_alice :
    ∃ reply,
      listNamespaces (RangeOrder.asKept Namespace)
        (SynchronizedAccessCache.new.Synch Runtime.reference
          (steady [bareNamespace "team-a", bareNamespace "team-b"] (fun _ => none)
            twoTenants)).1.accessCache
        "alice" [GoString.ofLiteral "devs", GoString.ofLiteral "devs"] = .ok reply ∧
      reply.names.Nodup ∧
      ∀ name, name ∈ reply.names ↔
        ∃ ns ∈ [bareNamespace "team-a", bareNamespace "team-b"], ns.name = name ∧
          ∃ sub ∈ allowedFor twoTenants ns,
            appliesToUser "alice" [GoString.ofLiteral "devs", GoString.ofLiteral "devs"] sub
              name = true :=
  listNamespaces_iff_appliesToUser Runtime.reference (RangeOrder.asKept Namespace)
    SynchronizedAccessCache.new _ _ twoTenants (by decide) (by decide)
    (Synch_steady_succeeds Runtime.reference SynchronizedAccessCache.new rfl _ twoTenants)
    "alice" _ (by decide)

/-! ### Service accounts -/

private theorem split_eq_singleton {text segment : GoString}
    (single : GoString.split text colon = [segment]) : text = segment := by
  have joined := GoString.join_split text colon
  rw [single] at joined
  rw [← joined]
  simp [List.intercalate]

private theorem makeUsername_injective (nsName name otherNs otherName : GoString)
    (absentNs : colon ∉ nsName) (absentName : colon ∉ name)
    (same : makeUsername otherNs otherName = makeUsername nsName name) :
    otherNs = nsName ∧ otherName = name := by
  have tails : otherNs ++ colon :: otherName = nsName ++ colon :: name := by
    rw [makeUsername_shape, makeUsername_shape] at same
    exact List.append_cancel_left same
  have segments : GoString.split otherNs colon ++ GoString.split otherName colon =
      [nsName, name] := by
    rw [← GoString.split_append, tails, GoString.split_append,
      GoString.split_single nsName colon absentNs, GoString.split_single name colon absentName]
    rfl
  cases first : GoString.split otherNs colon with
  | nil => exact absurd first (GoString.split_ne_nil otherNs colon)
  | cons head rest =>
      cases second : GoString.split otherName colon with
      | nil => exact absurd second (GoString.split_ne_nil otherName colon)
      | cons headName restName =>
          rw [first, second] at segments
          cases rest with
          | nil =>
              simp only [List.cons_append, List.nil_append, List.cons.injEq] at segments
              obtain ⟨sameNs, sameName, noRest⟩ := segments
              subst head headName restName
              exact ⟨split_eq_singleton first, split_eq_singleton second⟩
          | cons extra more =>
              have lengths := congrArg List.length segments
              simp only [List.length_append, List.length_cons, List.length_nil] at lengths
              omega

/-- RBAC's matching for the username of a service account: by account, where an
unqualified subject stands for the namespace it is bound in, by the full
username, or by group. -/
theorem appliesToUser_makeUsername (nsName name : GoString) (groups : List GoString)
    (nonempty : nsName ≠ []) (absentNs : colon ∉ nsName) (absentName : colon ∉ name)
    (sub : Subject) (boundIn : GoString) :
    appliesToUser (makeUsername nsName name) groups sub boundIn = true ↔
      (sub.kind = serviceAccountKind ∧ sub.name = name ∧
        (sub.nsName = nsName ∨ sub.nsName = [] ∧ boundIn = nsName)) ∨
      (sub.kind = userKind ∧ sub.name = makeUsername nsName name) ∨
      (sub.kind = groupKind ∧ sub.name ∈ groups) := by
  constructor
  · intro applies
    rcases kind_of_applies _ groups sub boundIn applies with user | group | account
    · exact Or.inr (Or.inl
        ⟨user, ((appliesToUser_user _ groups sub boundIn user).mp applies).symm⟩)
    · exact Or.inr (Or.inr ⟨group, (appliesToUser_group _ groups sub boundIn group).mp applies⟩)
    · obtain ⟨_, named⟩ := (appliesToUser_serviceAccount _ groups sub boundIn account).mp applies
      obtain ⟨sameNs, sameName⟩ := makeUsername_injective nsName name _ _ absentNs absentName
        named.symm
      refine Or.inl ⟨account, sameName, ?_⟩
      by_cases qualified : sub.nsName = []
      · rw [if_neg (not_not.mpr qualified)] at sameNs
        exact Or.inr ⟨qualified, sameNs⟩
      · rw [if_pos qualified] at sameNs
        exact Or.inl sameNs
  · intro shape
    rcases shape with ⟨account, sameName, sameNs⟩ | ⟨user, sameName⟩ | ⟨group, member⟩
    · rw [appliesToUser_serviceAccount _ groups sub boundIn account]
      have resolved : (if sub.nsName ≠ [] then sub.nsName else boundIn) = nsName := by
        rcases sameNs with qualified | ⟨unqualified, inOwn⟩
        · rw [qualified, if_pos nonempty]
        · rw [if_neg (not_not.mpr unqualified), inOwn]
      rw [resolved, sameName]
      exact ⟨nonempty, rfl⟩
    · rw [appliesToUser_user _ groups sub boundIn user]
      exact sameName.symm
    · exact (appliesToUser_group _ groups sub boundIn group).mpr member

/-- What the API server validates on the subjects of a binding. -/
def admittedSubject (sub : Subject) : Prop :=
  (sub.kind = serviceAccountKind → sub.apiGroup = []) ∧
    (sub.kind = userKind ∨ sub.kind = groupKind → sub.apiGroup = rbacGroupName)

instance (sub : Subject) : Decidable (admittedSubject sub) :=
  inferInstanceAs (Decidable ((_ → _) ∧ (_ ∨ _ → _)))

/-- A user subject, an unqualified service account subject, or a group subject
with a namespace: none of them equals a key looked up for a service account. -/
def missedShape (sub : Subject) : Prop :=
  sub.kind = userKind ∨ (sub.kind = serviceAccountKind ∧ sub.nsName = []) ∨
    (sub.kind = groupKind ∧ sub.nsName ≠ [])

instance (sub : Subject) : Decidable (missedShape sub) :=
  inferInstanceAs (Decidable (_ ∨ (_ ∧ _) ∨ (_ ∧ _)))

private theorem mem_keys_of_applies (nsName name : GoString) (groups : List GoString)
    (nonempty : nsName ≠ []) (absentNs : colon ∉ nsName) (absentName : colon ∉ name)
    (sub : Subject) (boundIn : GoString) (admitted : admittedSubject sub)
    (applies : appliesToUser (makeUsername nsName name) groups sub boundIn = true)
    (found : ¬missedShape sub) :
    sub ∈ serviceAccountSubject nsName name :: groups.map groupSubject := by
  rcases (appliesToUser_makeUsername nsName name groups nonempty absentNs absentName sub
    boundIn).mp applies with ⟨account, sameName, sameNs⟩ | ⟨user, _⟩ | ⟨group, member⟩
  · have qualified : sub.nsName = nsName := by
      rcases sameNs with qualified | ⟨unqualified, _⟩
      · exact qualified
      · exact absurd (Or.inr (Or.inl ⟨account, unqualified⟩)) found
    have noGroup := admitted.1 account
    refine List.mem_cons.mpr (Or.inl ?_)
    cases sub
    simp only at account sameName qualified noGroup
    subst account sameName qualified noGroup
    rfl
  · exact absurd (Or.inl user) found
  · have unqualified : sub.nsName = [] := by
      by_contra qualified
      exact found (Or.inr (Or.inr ⟨group, qualified⟩))
    exact List.mem_cons.mpr (Or.inr
      (mem_groupSubjects groups sub group (admitted.2 (Or.inr group)) unqualified member))

/-- A service account is shown every namespace RBAC grants it exactly when each
namespace granted through a missed shape is also granted through the qualified
service account subject or one of the groups. -/
theorem serviceAccount_complete_iff (rt : Runtime) (order : RangeOrder Namespace)
    (s : SynchronizedAccessCache) (nn : List Namespace) (ctxErr : Nat → Option ContextError)
    (allowed : AttributesRecord → List Subject × Option GoString)
    (admitted : ∀ ns ∈ nn, ∀ sub ∈ allowedFor allowed ns, admittedSubject sub)
    (succeeded : (s.Synch rt (steady nn ctxErr allowed)).2 = none)
    (nsName name : GoString) (nonempty : nsName ≠ []) (absentNs : colon ∉ nsName)
    (absentName : colon ∉ name) (groups : List GoString) :
    ∃ reply,
      listNamespaces order (s.Synch rt (steady nn ctxErr allowed)).1.accessCache
        (makeUsername nsName name) groups = .ok reply ∧
      ((∀ ns ∈ nn,
          (∃ sub ∈ allowedFor allowed ns,
            appliesToUser (makeUsername nsName name) groups sub ns.name = true) →
          ns.name ∈ reply.names) ↔
        ∀ ns ∈ nn,
          (∃ sub ∈ allowedFor allowed ns, missedShape sub ∧
            appliesToUser (makeUsername nsName name) groups sub ns.name = true) →
          serviceAccountSubject nsName name ∈ allowedFor allowed ns ∨
            ∃ group ∈ groups, groupSubject group ∈ allowedFor allowed ns) := by
  obtain ⟨reply, listed, names⟩ := listNamespaces_names rt order s nn ctxErr allowed succeeded
    (makeUsername nsName name) groups _ (parseUsername_makeUsername nsName name absentNs absentName)
  refine ⟨reply, listed, ?_⟩
  constructor
  · intro complete ns inList throughMissed
    obtain ⟨sub, granted, _, applies⟩ := throughMissed
    obtain ⟨shown, inListShown, sameName, key, inKeys, keyGranted⟩ :=
      (names ns.name).mp (complete ns inList ⟨sub, granted, applies⟩)
    -- AllowedSubjects is asked by name, so both namespaces get the same answer
    have sameAllowed : allowedFor allowed shown = allowedFor allowed ns := by
      unfold allowedFor namespaceAttributes
      rw [sameName]
    rw [sameAllowed] at keyGranted
    rcases List.mem_cons.mp inKeys with isAccount | isGroup
    · subst key
      exact Or.inl keyGranted
    · obtain ⟨group, inGroups, same⟩ := List.mem_map.mp isGroup
      subst key
      exact Or.inr ⟨group, inGroups, keyGranted⟩
  · intro condition ns inList granted
    obtain ⟨sub, subGranted, applies⟩ := granted
    rw [names]
    refine ⟨ns, inList, rfl, ?_⟩
    by_cases missed : missedShape sub
    · rcases condition ns inList ⟨sub, subGranted, missed, applies⟩ with account | inGroup
      · exact ⟨_, List.mem_cons_self, account⟩
      · obtain ⟨group, inGroups, groupGranted⟩ := inGroup
        exact ⟨groupSubject group,
          List.mem_cons_of_mem _ (List.mem_map_of_mem inGroups), groupGranted⟩
    · exact ⟨sub, mem_keys_of_applies nsName name groups nonempty absentNs absentName sub ns.name
        (admitted ns inList sub subGranted) applies missed, subGranted⟩

private def unqualifiedBuilder (_attributes : AttributesRecord) :
    List Subject × Option GoString :=
  ([serviceAccountSubject [] "builder"], none)

theorem serviceAccount_complete_fails :
    ¬∀ ns ∈ [bareNamespace "team-a"],
      (∃ sub ∈ allowedFor unqualifiedBuilder ns,
        appliesToUser (makeUsername "team-a" "builder") [] sub ns.name = true) →
      ∃ reply,
        listNamespaces (RangeOrder.asKept Namespace)
          (SynchronizedAccessCache.new.Synch Runtime.reference
            (steady [bareNamespace "team-a"] (fun _ => none) unqualifiedBuilder)).1.accessCache
          (makeUsername "team-a" "builder") [] = .ok reply ∧
        ns.name ∈ reply.names := by
  intro complete
  obtain ⟨reply, listed, member⟩ := complete (bareNamespace "team-a") (by decide) (by decide)
  have empty : listNamespaces (RangeOrder.asKept Namespace)
      (SynchronizedAccessCache.new.Synch Runtime.reference
        (steady [bareNamespace "team-a"] (fun _ => none) unqualifiedBuilder)).1.accessCache
      (makeUsername "team-a" "builder") [] =
        .ok { kind := "NamespaceList", apiVersion := "v1", items := none } := rfl
  rw [empty] at listed
  cases listed
  cases member

theorem serviceAccount_complete_iff_builder :
    ∃ reply,
      listNamespaces (RangeOrder.asKept Namespace)
        (SynchronizedAccessCache.new.Synch Runtime.reference
          (steady [bareNamespace "team-a"] (fun _ => none) unqualifiedBuilder)).1.accessCache
        (makeUsername "team-a" "builder") [] = .ok reply ∧
      ((∀ ns ∈ [bareNamespace "team-a"],
          (∃ sub ∈ allowedFor unqualifiedBuilder ns,
            appliesToUser (makeUsername "team-a" "builder") [] sub ns.name = true) →
          ns.name ∈ reply.names) ↔
        ∀ ns ∈ [bareNamespace "team-a"],
          (∃ sub ∈ allowedFor unqualifiedBuilder ns, missedShape sub ∧
            appliesToUser (makeUsername "team-a" "builder") [] sub ns.name = true) →
          serviceAccountSubject "team-a" "builder" ∈ allowedFor unqualifiedBuilder ns ∨
            ∃ group ∈ [], groupSubject group ∈ allowedFor unqualifiedBuilder ns) :=
  serviceAccount_complete_iff Runtime.reference (RangeOrder.asKept Namespace)
    SynchronizedAccessCache.new _ _ unqualifiedBuilder (by decide)
    (Synch_steady_succeeds Runtime.reference SynchronizedAccessCache.new rfl _ unqualifiedBuilder)
    "team-a" "builder" (by decide) (by decide) (by decide) []

/-! ### Arbitrary usernames with the service account start -/

/-- Every namespace in the reply has an allowed subject that applies to exactly
this username or one of these groups. -/
def soundReply (nn : List Namespace)
    (allowed : AttributesRecord → List Subject × Option GoString) (username : GoString)
    (groups : List GoString) (reply : NamespaceList) : Prop :=
  ∀ name ∈ reply.names, ∃ ns ∈ nn, ns.name = name ∧
    ∃ sub ∈ allowedFor allowed ns, appliesToUser username groups sub name = true

private theorem soundReply_iff (rt : Runtime) (order : RangeOrder Namespace)
    (s : SynchronizedAccessCache) (nn : List Namespace) (ctxErr : Nat → Option ContextError)
    (allowed : AttributesRecord → List Subject × Option GoString)
    (succeeded : (s.Synch rt (steady nn ctxErr allowed)).2 = none)
    (username : GoString) (groups : List GoString) (sub : Subject)
    (parsed : parseUsername username = .ok sub) :
    ∃ reply,
      listNamespaces order (s.Synch rt (steady nn ctxErr allowed)).1.accessCache
        username groups = .ok reply ∧
      (soundReply nn allowed username groups reply ↔
        ∀ ns ∈ nn, sub ∈ allowedFor allowed ns →
          ∃ other ∈ allowedFor allowed ns,
            appliesToUser username groups other ns.name = true) := by
  obtain ⟨reply, listed, names⟩ := listNamespaces_names rt order s nn ctxErr allowed succeeded
    username groups sub parsed
  refine ⟨reply, listed, ?_⟩
  constructor
  · intro sound ns inList granted
    have shown : ns.name ∈ reply.names :=
      (names ns.name).mpr ⟨ns, inList, rfl, sub, List.mem_cons_self, granted⟩
    obtain ⟨other, _inList, sameName, applying, otherGranted, applies⟩ := sound ns.name shown
    have sameAllowed : allowedFor allowed other = allowedFor allowed ns := by
      unfold allowedFor namespaceAttributes
      rw [sameName]
    rw [sameAllowed] at otherGranted
    exact ⟨applying, otherGranted, applies⟩
  · intro condition name shown
    obtain ⟨ns, inList, named, key, inKeys, granted⟩ := (names name).mp shown
    refine ⟨ns, inList, named, ?_⟩
    rcases List.mem_cons.mp inKeys with isParsed | isGroup
    · subst key name
      exact condition ns inList granted
    · exact ⟨key, granted, groupSubject_applies username groups name key isGroup⟩

private theorem parsed_applies_of_exact (username nsName name boundIn : GoString)
    (groups tail : List GoString)
    (segments : GoString.split username colon =
      GoString.ofLiteral "system" :: GoString.ofLiteral "serviceaccount" ::
        nsName :: name :: tail)
    (exactly : exactServiceAccount username = true) :
    appliesToUser username groups (serviceAccountSubject nsName name) boundIn = true := by
  obtain ⟨noTail, qualified⟩ :=
    (exactServiceAccount_iff username nsName name tail segments).mp exactly
  subst tail
  rw [appliesToUser_serviceAccount username groups (serviceAccountSubject nsName name) boundIn rfl]
  change (if nsName ≠ [] then nsName else boundIn) ≠ [] ∧
    username = makeUsername (if nsName ≠ [] then nsName else boundIn) name
  rw [if_pos qualified]
  exact ⟨qualified, username_of_segments username nsName name segments⟩

private theorem exact_of_parsed_applies (username nsName name boundIn : GoString)
    (groups tail : List GoString) (nonempty : boundIn ≠ []) (absent : colon ∉ boundIn)
    (segments : GoString.split username colon =
      GoString.ofLiteral "system" :: GoString.ofLiteral "serviceaccount" ::
        nsName :: name :: tail)
    (applies :
      appliesToUser username groups (serviceAccountSubject nsName name) boundIn = true) :
    exactServiceAccount username = true := by
  rw [appliesToUser_serviceAccount username groups (serviceAccountSubject nsName name) boundIn rfl]
    at applies
  have literal : (if nsName ≠ [] then nsName else boundIn) ≠ [] ∧
      username = makeUsername (if nsName ≠ [] then nsName else boundIn) name := applies
  rw [exactServiceAccount_iff username nsName name tail segments]
  by_cases qualified : nsName = []
  · -- the third segment would have to be the namespace itself
    rw [if_neg (not_not.mpr qualified)] at literal
    rw [literal.2, split_makeUsername boundIn name absent] at segments
    simp only [List.cons.injEq, true_and] at segments
    exact absurd (segments.1.trans qualified) nonempty
  · rw [if_pos qualified] at literal
    constructor
    · cases tail with
      | nil => rfl
      | cons extra more =>
          have longer := username_of_more_segments username nsName name extra more segments
          have lengths := congrArg List.length (longer.symm.trans literal.2)
          simp only [List.length_append, List.length_cons] at lengths
          omega
    · exact qualified

/-- On a username with the service account start, replies are sound for all
data exactly when the username has four segments and the third is not empty.  On
given data the reply is sound exactly when each namespace that allows the parsed
account also allows a subject that applies.  Two usernames of the exact form
share their key only when they are equal. -/
theorem serviceAccount_sound_iff (username : GoString) (sub : Subject)
    (start : GoString.hasPrefix username "system:serviceaccount:" = true)
    (parsed : parseUsername username = .ok sub) :
    ((∀ rt order s nn ctxErr allowed groups reply,
        (SynchronizedAccessCache.Synch rt s (steady nn ctxErr allowed)).2 = none →
        listNamespaces order (SynchronizedAccessCache.Synch rt s
          (steady nn ctxErr allowed)).1.accessCache username groups = .ok reply →
        soundReply nn allowed username groups reply) ↔
      exactServiceAccount username = true) ∧
    (∀ rt order s nn ctxErr allowed groups,
      (SynchronizedAccessCache.Synch rt s (steady nn ctxErr allowed)).2 = none →
      ∃ reply,
        listNamespaces order (SynchronizedAccessCache.Synch rt s
          (steady nn ctxErr allowed)).1.accessCache username groups = .ok reply ∧
        (soundReply nn allowed username groups reply ↔
          ∀ ns ∈ nn, sub ∈ allowedFor allowed ns →
            ∃ other ∈ allowedFor allowed ns,
              appliesToUser username groups other ns.name = true)) ∧
    (∀ other,
      GoString.hasPrefix other "system:serviceaccount:" = true →
      parseUsername other = .ok sub →
      exactServiceAccount username = true → exactServiceAccount other = true →
      other = username) := by
  obtain ⟨nsName, name, tail, segments, parsedAs⟩ :=
    parseUsername_serviceAccount username sub start parsed
  subst sub
  refine ⟨?_, ?_, ?_⟩
  · constructor
    · intro sound
      -- one namespace that allows the parsed account and nothing else
      let ns := bareNamespace "a"
      let allowed : AttributesRecord → List Subject × Option GoString :=
        fun _ => ([serviceAccountSubject nsName name], none)
      have succeeded := Synch_steady_succeeds Runtime.reference SynchronizedAccessCache.new rfl
        [ns] allowed
      obtain ⟨reply, listed, soundIff⟩ := soundReply_iff Runtime.reference
        (RangeOrder.asKept Namespace) SynchronizedAccessCache.new [ns] _ allowed succeeded
        username [] _ parsed
      obtain ⟨other, member, applies⟩ := soundIff.mp
        (sound _ _ _ _ _ _ _ _ succeeded listed) ns List.mem_cons_self List.mem_cons_self
      have isParsed : other = serviceAccountSubject nsName name := List.mem_singleton.mp member
      subst other
      exact exact_of_parsed_applies username nsName name "a" [] tail (by decide) (by decide)
        segments applies
    · intro exactly rt order s nn ctxErr allowed groups reply succeeded listed
      obtain ⟨sameReply, sameListed, soundIff⟩ := soundReply_iff rt order s nn ctxErr allowed
        succeeded username groups _ parsed
      rw [listed] at sameListed
      cases sameListed
      apply soundIff.mpr
      intro ns _inList granted
      exact ⟨_, granted, parsed_applies_of_exact username nsName name ns.name groups tail
        segments exactly⟩
  · intro rt order s nn ctxErr allowed groups succeeded
    exact soundReply_iff rt order s nn ctxErr allowed succeeded username groups _ parsed
  · intro other otherStart otherParsed exactly otherExactly
    obtain ⟨otherNs, otherName, otherTail, otherSegments, otherAs⟩ :=
      parseUsername_serviceAccount other _ otherStart otherParsed
    cases otherAs
    obtain ⟨noTail, _⟩ := (exactServiceAccount_iff username nsName name tail segments).mp exactly
    obtain ⟨noOtherTail, _⟩ :=
      (exactServiceAccount_iff other nsName name otherTail otherSegments).mp otherExactly
    subst tail otherTail
    rw [username_of_segments username nsName name segments,
      username_of_segments other nsName name otherSegments]

private def qualifiedBuilder (_attributes : AttributesRecord) :
    List Subject × Option GoString :=
  ([serviceAccountSubject "team-a" "builder"], none)

/-- A fifth segment does not keep a username from reading the access of the
account named by the first four. -/
theorem serviceAccount_sound_fails :
    (SynchronizedAccessCache.new.Synch Runtime.reference
      (steady [bareNamespace "team-b"] (fun _ => none) qualifiedBuilder)).2 = none ∧
    ∃ reply,
      listNamespaces (RangeOrder.asKept Namespace)
        (SynchronizedAccessCache.new.Synch Runtime.reference
          (steady [bareNamespace "team-b"] (fun _ => none) qualifiedBuilder)).1.accessCache
        "system:serviceaccount:team-a:builder:x" [] = .ok reply ∧
      ¬soundReply [bareNamespace "team-b"] qualifiedBuilder
        "system:serviceaccount:team-a:builder:x" [] reply := by
  have succeeded := Synch_steady_succeeds Runtime.reference SynchronizedAccessCache.new rfl
    [bareNamespace "team-b"] qualifiedBuilder
  refine ⟨succeeded, ?_⟩
  obtain ⟨reply, listed, soundIff⟩ := soundReply_iff Runtime.reference
    (RangeOrder.asKept Namespace) SynchronizedAccessCache.new [bareNamespace "team-b"] _
    qualifiedBuilder succeeded "system:serviceaccount:team-a:builder:x" []
    (serviceAccountSubject "team-a" "builder") rfl
  refine ⟨reply, listed, ?_⟩
  intro sound
  have granted := soundIff.mp sound (bareNamespace "team-b") (by decide) (by decide)
  revert granted
  decide

theorem serviceAccount_sound_iff_builder :
    (∀ rt order s nn ctxErr allowed groups reply,
        (SynchronizedAccessCache.Synch rt s (steady nn ctxErr allowed)).2 = none →
        listNamespaces order (SynchronizedAccessCache.Synch rt s
          (steady nn ctxErr allowed)).1.accessCache
          "system:serviceaccount:team-a:builder:x" groups = .ok reply →
        soundReply nn allowed "system:serviceaccount:team-a:builder:x" groups reply) ↔
      exactServiceAccount "system:serviceaccount:team-a:builder:x" = true :=
  (serviceAccount_sound_iff "system:serviceaccount:team-a:builder:x"
    (serviceAccountSubject "team-a" "builder") (by decide) rfl).1

end NamespaceLister

/-
Every exit of a synchronization, and what it leaves published.

`SynchExit` lists the four kinds of exit of `Synch` with the observations that
lead to each.  The inverted access relation is stated for arbitrary observations:
the reply of AllowedSubjects may differ from one position of the list to the
next, may repeat subjects and may come with an error.
-/

import NamespaceLister.SynchronizedAccessCache

namespace NamespaceLister

open Library

/-- What the loop reads from position `i` on: each listed namespace with the
subjects that are returned for it. -/
def observedPairs (obs : SynchObservations) :
    Nat → List Namespace → List (Namespace × List Subject)
  | _, [] => []
  | i, ns :: rest =>
      (ns, (obs.allowedSubjects i (namespaceAttributes ns)).1) :: observedPairs obs (i + 1) rest

theorem mem_observedPairs (obs : SynchObservations) (i position : Nat) (nn : List Namespace)
    (ns : Namespace) (listed : nn[position]? = some ns) :
    (ns, (obs.allowedSubjects (i + position) (namespaceAttributes ns)).1) ∈
      observedPairs obs i nn := by
  induction nn generalizing i position with
  | nil =>
      rw [List.getElem?_nil] at listed
      cases listed
  | cons head rest ih =>
      cases position with
      | zero =>
          rw [List.getElem?_cons_zero] at listed
          cases listed
          exact List.mem_cons_self
      | succ before =>
          rw [List.getElem?_cons_succ] at listed
          have later := ih (i + 1) before listed
          rw [show i + 1 + before = i + (before + 1) by omega] at later
          exact List.mem_cons_of_mem _ later

theorem observedPairs_names (obs : SynchObservations) (i : Nat) (nn : List Namespace) :
    (observedPairs obs i nn).map (fun pair => pair.1.name) = nn.map Namespace.name := by
  induction nn generalizing i with
  | nil => rfl
  | cons ns rest ih =>
      unfold observedPairs
      rw [List.map_cons, ih, List.map_cons]

/-! ### The loop -/

private theorem synchLoop_inTime (rt : Runtime) (obs : SynchObservations) (i : Nat)
    (nn : List Namespace) (c : AccessData)
    (inTime : ∀ position < nn.length, obs.ctxErr (i + position) = none) :
    synchLoop rt obs i nn c =
      .ok ((observedPairs obs i nn).foldl (fun c pair => synchNamespace rt c pair.1 pair.2) c) := by
  induction nn generalizing i c with
  | nil => rfl
  | cons ns rest ih =>
      have head : obs.ctxErr i = none := inTime 0 (Nat.succ_pos _)
      rw [synchLoop_next rt obs i ns rest c head]
      apply ih
      intro position inside
      have later := inTime (position + 1) (Nat.succ_lt_succ inside)
      rw [show i + (position + 1) = i + 1 + position by omega] at later
      exact later

private theorem synchLoop_exit (rt : Runtime) (obs : SynchObservations) (i : Nat)
    (nn : List Namespace) (c : AccessData) :
    (∀ position < nn.length, obs.ctxErr (i + position) = none) ∨
      ∃ position cause, position < nn.length ∧ obs.ctxErr (i + position) = some cause ∧
        synchLoop rt obs i nn c = .error (.contextDone cause) := by
  induction nn generalizing i c with
  | nil =>
      left
      intro position inside
      cases inside
  | cons ns rest ih =>
      cases head : obs.ctxErr i with
      | some cause =>
          right
          exact ⟨0, cause, Nat.succ_pos _, head, synchLoop_expired rt obs i ns rest c cause head⟩
      | none =>
          have step := synchLoop_next rt obs i ns rest c head
          rcases ih (i + 1)
            (synchNamespace rt c ns (obs.allowedSubjects i (namespaceAttributes ns)).1) with
            inTime | ⟨position, cause, inside, expired, failed⟩
          · left
            intro position inside
            cases position with
            | zero => exact head
            | succ before =>
                have later := inTime before (Nat.lt_of_succ_lt_succ inside)
                rw [show i + 1 + before = i + (before + 1) by omega] at later
                exact later
          · right
            rw [show i + 1 + position = i + (position + 1) by omega] at expired
            exact ⟨position + 1, cause, Nat.succ_lt_succ inside, expired, step.trans failed⟩

/-! ### The exits of Synch -/

/-- The state and the error that `Synch` leaves, by kind of exit. -/
inductive SynchExit (rt : Runtime) (s : SynchronizedAccessCache) (obs : SynchObservations) :
    SynchronizedAccessCache × Option SynchError → Prop where
  | running (busy : s.synchronizing = true) :
      SynchExit rt s obs (s, some .synchAlreadyRunning)
  | listFailed (cause : GoString) (free : s.synchronizing = false)
      (failed : obs.listed = .error cause) :
      SynchExit rt s obs ({ s with synchronizing := false }, some (.listFailed cause))
  | expired (nn : List Namespace) (position : Nat) (cause : ContextError)
      (free : s.synchronizing = false) (listed : obs.listed = .ok nn)
      (inside : position < nn.length) (seen : obs.ctxErr position = some cause) :
      SynchExit rt s obs ({ s with synchronizing := false }, some (.contextDone cause))
  | published (nn : List Namespace) (free : s.synchronizing = false)
      (listed : obs.listed = .ok nn)
      (inTime : ∀ position < nn.length, obs.ctxErr position = none) :
      SynchExit rt s obs
        ({ s with
            accessCache := s.accessCache.restock (accessOf rt (observedPairs obs 0 nn))
            synchronizing := false }, none)

theorem Synch_exit (rt : Runtime) (s : SynchronizedAccessCache) (obs : SynchObservations) :
    SynchExit rt s obs (s.Synch rt obs) := by
  cases flag : s.synchronizing with
  | true =>
      have result : s.Synch rt obs = (s, some .synchAlreadyRunning) := by
        simp only [SynchronizedAccessCache.Synch, flag, if_true]
      rw [result]
      exact .running flag
  | false =>
      cases listed : obs.listed with
      | error cause =>
          have result : s.Synch rt obs =
              ({ s with synchronizing := false }, some (.listFailed cause)) := by
            simp only [SynchronizedAccessCache.Synch, flag, Bool.false_eq_true, if_false,
              SynchronizedAccessCache.synch, listed]
          rw [result]
          exact .listFailed cause flag listed
      | ok nn =>
          rcases synchLoop_exit rt obs 0 nn ∅ with
            inTime | ⟨position, cause, inside, seen, failed⟩
          · have completed := synchLoop_inTime rt obs 0 nn ∅ inTime
            have result : s.Synch rt obs =
                ({ s with
                    accessCache := s.accessCache.restock (accessOf rt (observedPairs obs 0 nn))
                    synchronizing := false }, none) := by
              simp only [SynchronizedAccessCache.Synch, flag, Bool.false_eq_true, if_false,
                SynchronizedAccessCache.synch, listed, completed, accessOf]
            rw [result]
            refine .published nn flag listed ?_
            intro position inside
            have early := inTime position inside
            rw [Nat.zero_add] at early
            exact early
          · have result : s.Synch rt obs =
                ({ s with synchronizing := false }, some (.contextDone cause)) := by
              simp only [SynchronizedAccessCache.Synch, flag, Bool.false_eq_true, if_false,
                SynchronizedAccessCache.synch, listed, failed]
            rw [result]
            rw [Nat.zero_add] at seen
            exact .expired nn position cause flag listed inside seen

private theorem synchLoop_congr (rt : Runtime) (first second : SynchObservations)
    (sameCtx : first.ctxErr = second.ctxErr)
    (sameReplies : ∀ i attributes,
      (first.allowedSubjects i attributes).1 = (second.allowedSubjects i attributes).1)
    (i : Nat) (nn : List Namespace) (c : AccessData) :
    synchLoop rt first i nn c = synchLoop rt second i nn c := by
  induction nn generalizing i c with
  | nil => rfl
  | cons ns rest ih =>
      unfold synchLoop
      rw [sameCtx, sameReplies, ih]

theorem Synch_congr (rt : Runtime) (s : SynchronizedAccessCache)
    (first second : SynchObservations) (sameList : first.listed = second.listed)
    (sameCtx : first.ctxErr = second.ctxErr)
    (sameReplies : ∀ i attributes,
      (first.allowedSubjects i attributes).1 = (second.allowedSubjects i attributes).1) :
    s.Synch rt first = s.Synch rt second := by
  simp only [SynchronizedAccessCache.Synch, SynchronizedAccessCache.synch, sameList,
    synchLoop_congr rt first second sameCtx sameReplies]

theorem Synch_published (rt : Runtime) (s : SynchronizedAccessCache) (obs : SynchObservations)
    (nn : List Namespace) (listed : obs.listed = .ok nn)
    (succeeded : (s.Synch rt obs).2 = none) :
    (s.Synch rt obs).1.accessCache.data = some (accessOf rt (observedPairs obs 0 nn)) := by
  have exit := Synch_exit rt s obs
  generalize s.Synch rt obs = result at exit succeeded ⊢
  cases exit with
  | running busy => cases succeeded
  | listFailed cause free failed => cases succeeded
  | expired nn position cause free listed inside seen => cases succeeded
  | published observed free listedHere inTime =>
      rw [listed] at listedHere
      cases listedHere
      rfl

/-! ### The inverted relation, for arbitrary replies -/

private theorem grants_sameMembers (rt otherRt : Runtime)
    (sameLower : otherRt.unicodeToLower = rt.unicodeToLower)
    (pairs others : List (Namespace × List Subject))
    (same : List.Forall₂ (fun other pair => other.1 = pair.1 ∧ ∀ sub, sub ∈ other.2 ↔ sub ∈ pair.2)
      others pairs) (sub : Subject) :
    grants otherRt others sub = grants rt pairs sub := by
  induction same with
  | nil => rfl
  | @cons other pair others pairs head _tail ih =>
      obtain ⟨otherNs, otherSs⟩ := other
      obtain ⟨ns, ss⟩ := pair
      obtain ⟨sameNs, members⟩ := head
      change otherNs = ns at sameNs
      subst otherNs
      have relabelled : setVisibilityVirtualLabel ns otherSs = setVisibilityVirtualLabel ns ss := by
        apply setVisibilityVirtualLabel_congr
        rw [Bool.eq_iff_iff, List.any_eq_true, List.any_eq_true]
        simp only [members]
      have sameEntry : accessEntry otherRt ns otherSs sub = accessEntry rt ns ss sub := by
        unfold accessEntry withVirtualLabelsAndAnnotationsForAccess
        rw [relabelled, sameLower]
      unfold grants at ih ⊢
      by_cases granted : sub ∈ ss
      · rw [List.filter_cons_of_pos (by simpa using (members sub).mpr granted),
          List.filter_cons_of_pos (by simpa using granted), List.map_cons, List.map_cons, ih,
          sameEntry]
      · have refused : sub ∉ otherSs := fun member => granted ((members sub).mp member)
        rw [List.filter_cons_of_neg (by simpa using refused),
          List.filter_cons_of_neg (by simpa using granted), ih]

private theorem observedPairs_sameMembers (obs other : SynchObservations)
    (members : ∀ i attributes sub, sub ∈ (other.allowedSubjects i attributes).1 ↔
      sub ∈ (obs.allowedSubjects i attributes).1) (i : Nat) (nn : List Namespace) :
    List.Forall₂ (fun other pair => other.1 = pair.1 ∧ ∀ sub, sub ∈ other.2 ↔ sub ∈ pair.2)
      (observedPairs other i nn) (observedPairs obs i nn) := by
  induction nn generalizing i with
  | nil => exact List.Forall₂.nil
  | cons ns rest ih =>
      apply List.Forall₂.cons
      · exact ⟨rfl, members i (namespaceAttributes ns)⟩
      · exact ih (i + 1)

theorem accessOf_sameMembers (rt otherRt : Runtime)
    (sameLower : otherRt.unicodeToLower = rt.unicodeToLower)
    (pairs others : List (Namespace × List Subject))
    (same : List.Forall₂ (fun other pair => other.1 = pair.1 ∧ ∀ sub, sub ∈ other.2 ↔ sub ∈ pair.2)
      others pairs) :
    accessOf otherRt others = accessOf rt pairs := by
  apply Finmap.ext_lookup
  intro sub
  rw [lookup_accessOf, lookup_accessOf,
    grants_sameMembers rt otherRt sameLower pairs others same sub]

theorem mem_accessOf (rt : Runtime) (pairs : List (Namespace × List Subject)) (sub : Subject) :
    sub ∈ accessOf rt pairs ↔ pairs.filter (fun pair => sub ∈ pair.2) ≠ [] := by
  have nothing : grants rt pairs sub = [] ↔ pairs.filter (fun pair => sub ∈ pair.2) = [] :=
    List.map_eq_nil_iff
  rw [Finmap.mem_iff, lookup_accessOf, ne_eq, ← nothing]
  by_cases empty : grants rt pairs sub = []
  · simp [empty]
  · simp [empty]

private theorem synch_inTime (rt : Runtime) (s : SynchronizedAccessCache)
    (obs : SynchObservations) (nn : List Namespace) (listed : obs.listed = .ok nn)
    (inTime : ∀ position < nn.length, obs.ctxErr position = none) :
    s.synch rt obs =
      ({ s with accessCache := s.accessCache.restock (accessOf rt (observedPairs obs 0 nn)) },
        .ok (accessOf rt (observedPairs obs 0 nn))) := by
  have completed : synchLoop rt obs 0 nn ∅ = .ok (accessOf rt (observedPairs obs 0 nn)) := by
    apply synchLoop_inTime
    intro position inside
    rw [Nat.zero_add]
    exact inTime position inside
  simp only [SynchronizedAccessCache.synch, listed, completed]

/-- A synch whose context does not expire publishes, for each subject, the
namespaces whose reply contains it, in list order and once for each list item,
with the virtual metadata of the subject.  Order and repetitions in the replies
make no difference, nor does the sorting algorithm. -/
theorem synch_inverts_access (rt : Runtime) (s : SynchronizedAccessCache)
    (obs : SynchObservations) (nn : List Namespace) (listed : obs.listed = .ok nn)
    (inTime : ∀ position < nn.length, obs.ctxErr position = none) :
    ∃ c,
      s.synch rt obs = ({ s with accessCache := s.accessCache.restock c }, .ok c) ∧
      (∀ sub,
        (c.lookup sub).getD [] =
          ((observedPairs obs 0 nn).filter (fun pair => sub ∈ pair.2)).map (fun pair =>
            withVirtualLabelsAndAnnotationsForAccess rt
              (setVisibilityVirtualLabel pair.1 pair.2) sub)) ∧
      (∀ sub,
        sub ∈ c ↔ (observedPairs obs 0 nn).filter (fun pair => sub ∈ pair.2) ≠ []) ∧
      ∀ (otherRt : Runtime) (other : SynchObservations),
        otherRt.unicodeToLower = rt.unicodeToLower →
        other.listed = obs.listed →
        (∀ position < nn.length, other.ctxErr position = none) →
        (∀ i attributes sub, sub ∈ (other.allowedSubjects i attributes).1 ↔
          sub ∈ (obs.allowedSubjects i attributes).1) →
        (s.synch otherRt other).2 = .ok c := by
  refine ⟨accessOf rt (observedPairs obs 0 nn), synch_inTime rt s obs nn listed inTime, ?_, ?_, ?_⟩
  · intro sub
    exact accessOf_getD rt (observedPairs obs 0 nn) sub
  · intro sub
    exact mem_accessOf rt (observedPairs obs 0 nn) sub
  · intro otherRt other sameLower sameList otherInTime members
    have otherListed : other.listed = .ok nn := sameList.trans listed
    rw [synch_inTime otherRt s other nn otherListed otherInTime]
    change Except.ok (accessOf otherRt (observedPairs other 0 nn)) = _
    rw [accessOf_sameMembers rt otherRt sameLower (observedPairs obs 0 nn) _
      (observedPairs_sameMembers obs other members 0 nn)]

private def repeatedSubjects : SynchObservations :=
  { listed := .ok [bareNamespace "team-a", bareNamespace "team-b"]
    ctxErr := fun _ => none
    allowedSubjects := fun i _ =>
      if i = 0 then ([userSubject "alice", userSubject "bob", userSubject "alice"], none)
      else ([userSubject "alice"], some "role not found") }

theorem synch_inverts_access_repeated :
    ∃ c,
      SynchronizedAccessCache.new.synch Runtime.reference repeatedSubjects =
        ({ SynchronizedAccessCache.new with
            accessCache := SynchronizedAccessCache.new.accessCache.restock c }, .ok c) ∧
      ((c.lookup (userSubject "alice")).getD []).map Namespace.name =
        [GoString.ofLiteral "team-a", GoString.ofLiteral "team-b"] := by
  obtain ⟨c, published, lists, _keys, _independent⟩ :=
    synch_inverts_access Runtime.reference SynchronizedAccessCache.new repeatedSubjects
      [bareNamespace "team-a", bareNamespace "team-b"] rfl (fun _ _ => rfl)
  refine ⟨c, published, ?_⟩
  rw [lists]
  decide

/-! ### All or nothing -/

/-- A failed Synch keeps what is published; a successful one covers every listed
namespace.  It fails exactly when the flag is held, the List fails or a check sees
the context expired; errors of AllowedSubjects make no difference; and a Synch
that takes the flag gives it back. -/
theorem Synch_all_or_nothing (rt : Runtime) (s : SynchronizedAccessCache)
    (obs : SynchObservations) :
    (((s.Synch rt obs).2 ≠ none ∧ (s.Synch rt obs).1.accessCache = s.accessCache) ∨
      ((s.Synch rt obs).2 = none ∧
        ∃ nn, obs.listed = .ok nn ∧
          (s.Synch rt obs).1.accessCache.data = some (accessOf rt (observedPairs obs 0 nn)) ∧
          ∀ position ns, nn[position]? = some ns →
            ∀ sub ∈ (obs.allowedSubjects position (namespaceAttributes ns)).1,
              accessEntry rt ns (obs.allowedSubjects position (namespaceAttributes ns)).1 sub ∈
                ((s.Synch rt obs).1.accessCache.list sub).getD [])) ∧
    ((s.Synch rt obs).2 ≠ none ↔
      s.synchronizing = true ∨ (∃ cause, obs.listed = .error cause) ∨
        ∃ nn position, obs.listed = .ok nn ∧ position < nn.length ∧
          obs.ctxErr position ≠ none) ∧
    (∀ quiet : SynchObservations,
      quiet.listed = obs.listed → quiet.ctxErr = obs.ctxErr →
      (∀ i attributes,
        (quiet.allowedSubjects i attributes).1 = (obs.allowedSubjects i attributes).1) →
      s.Synch rt quiet = s.Synch rt obs) ∧
    (s.synchronizing = false → (s.Synch rt obs).1.synchronizing = false) := by
  refine ⟨?_, ?_, ?_, ?_⟩
  · have exit := Synch_exit rt s obs
    generalize s.Synch rt obs = result at exit ⊢
    cases exit with
    | running busy => exact Or.inl ⟨by simp, rfl⟩
    | listFailed cause free failed => exact Or.inl ⟨by simp, rfl⟩
    | expired nn position cause free listed inside seen => exact Or.inl ⟨by simp, rfl⟩
    | published nn free listed inTime =>
        refine Or.inr ⟨rfl, nn, listed, rfl, ?_⟩
        intro position ns atPosition sub granted
        change _ ∈ ((accessOf rt (observedPairs obs 0 nn)).lookup sub).getD []
        rw [accessOf_getD]
        have pair := mem_observedPairs obs 0 position nn ns atPosition
        rw [Nat.zero_add] at pair
        exact List.mem_map.mpr ⟨_, List.mem_filter.mpr ⟨pair, by simpa using granted⟩, rfl⟩
  · have exit := Synch_exit rt s obs
    generalize s.Synch rt obs = result at exit ⊢
    cases exit with
    | running busy => simp [busy]
    | listFailed cause free failed => simp [failed]
    | expired nn position cause free listed inside seen =>
        constructor
        · intro _failed
          exact Or.inr (Or.inr ⟨nn, position, listed, inside, by simp [seen]⟩)
        · intro _reason
          simp
    | published nn free listed inTime =>
        constructor
        · intro failed
          exact absurd rfl failed
        · intro reason
          rcases reason with busy | ⟨cause, failed⟩ | ⟨other, position, otherListed, inside, seen⟩
          · rw [free] at busy
            cases busy
          · rw [listed] at failed
            cases failed
          · rw [listed] at otherListed
            cases otherListed
            exact absurd (inTime position inside) seen
  · intro quiet sameList sameCtx sameReplies
    exact Synch_congr rt s quiet obs sameList sameCtx sameReplies
  · intro free
    have exit := Synch_exit rt s obs
    generalize s.Synch rt obs = result at exit ⊢
    cases exit with
    | running busy =>
        rw [free] at busy
        cases busy
    | listFailed cause _ failed => rfl
    | expired nn position cause _ listed inside seen => rfl
    | published nn _ listed inTime => rfl

end NamespaceLister

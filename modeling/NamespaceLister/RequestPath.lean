/-
A request from its headers to its response.

The authenticator trusts a username header when one is configured and passes its
value on unchanged; otherwise it asks the API server, whose answer is a
parameter.  The handler lists the namespaces of the authenticated user and
encodes them, with the JSON encoder as a parameter.
-/

import NamespaceLister.RbacAgreement

namespace NamespaceLister

open Library

/-! ### Headers -/

def validHeaderFieldByte (byte : UInt8) : Bool :=
  (48 ≤ byte && byte ≤ 57) || (65 ≤ byte && byte ≤ 90) || (97 ≤ byte && byte ≤ 122) ||
    (GoString.ofLiteral "!#$%&'*+-.^_`|~").contains byte

/-- The first letter and each letter after a hyphen in upper case, the others in
lower case. -/
def canonicalCase : Bool → GoString → GoString
  | _, [] => []
  | upper, byte :: rest =>
      let cased :=
        if upper && 97 ≤ byte && byte ≤ 122 then byte - 32
        else if !upper && 65 ≤ byte && byte ≤ 90 then byte + 32
        else byte
      cased :: canonicalCase (cased == 45) rest

def canonicalMIMEHeaderKey (key : GoString) : GoString :=
  if key.all validHeaderFieldByte then canonicalCase true key else key

/-- A request, as far as the authenticator reads it: the values of each header
field under its canonical name. -/
structure Request where
  header : GoMap GoString (List GoString)

def Request.values (req : Request) (key : GoString) : List GoString :=
  (req.header.lookup (canonicalMIMEHeaderKey key)).getD []

def Request.get (req : Request) (key : GoString) : GoString :=
  (req.values key).headD []

/-! ### Authentication -/

structure AuthenticatedUser where
  name : GoString
  groups : List GoString
deriving DecidableEq

/-- The three results of `AuthenticateRequest`; the response is a pointer. -/
structure Authentication where
  response : Option AuthenticatedUser
  ok : Bool
  err : Option GoString
deriving DecidableEq

structure Authenticator where
  usernameHeader : GoString
  groupsHeader : GoString
  next : Request → Authentication

namespace Authenticator

def authenticateRequest (a : Authenticator) (req : Request) : Authentication :=
  if a.usernameHeader ≠ [] ∧ req.get a.usernameHeader ≠ [] then
    { response := some
        { name := req.get a.usernameHeader
          groups := req.values a.groupsHeader }
      ok := true
      err := none }
  else a.next req

end Authenticator

/-! ### Responses -/

structure Response where
  status : Nat
  contentType : Option GoString
  body : GoString
deriving DecidableEq

def statusOK : Nat := 200

def statusUnauthorized : Nat := 401

def statusInternalServerError : Nat := 500

/-- `ListNamespacesHandler.ServeHTTP`.  The user details are a pointer from the
context of the request. -/
def serveListNamespaces (order : RangeOrder Namespace) (cache : AccessCache)
    (marshal : NamespaceList → Except GoString GoString) (ud : Option AuthenticatedUser) :
    Except Panic Response :=
  match ud with
  | none => .error .nilDereference
  | some user =>
      match listNamespaces order cache user.name user.groups with
      | .error panic => .error panic
      | .ok nn =>
          match marshal nn with
          | .error err =>
              -- http.Error ends the text with a newline
              .ok
                { status := statusInternalServerError
                  contentType := some "text/plain; charset=utf-8"
                  body := err ++ [10] }
          | .ok b =>
              .ok
                { status := statusOK
                  contentType := some "application/json;charset=utf-8"
                  body := b }

/-- `AddAuthnMiddleware` around the handler. -/
def serveRequest (order : RangeOrder Namespace) (cache : AccessCache)
    (marshal : NamespaceList → Except GoString GoString) (a : Authenticator) (req : Request) :
    Except Panic Response :=
  let rs := a.authenticateRequest req
  if rs.err ≠ none ∨ rs.ok = false then
    .ok
      { status := statusUnauthorized
        contentType := none
        body := [] }
  else serveListNamespaces order cache marshal rs.response

/-! ### Which usernames are handled -/

/-- A service account username has a separator after its namespace. -/
def namedServiceAccount (username : GoString) : Prop :=
  ∀ rest, username = GoString.ofLiteral "system:serviceaccount:" ++ rest → colon ∈ rest

private theorem two_le_length_split_iff (text : GoString) (separator : UInt8) :
    2 ≤ (GoString.split text separator).length ↔ separator ∈ text := by
  constructor
  · intro long
    by_contra absent
    rw [GoString.split_single text separator absent] at long
    change 2 ≤ 1 at long
    omega
  · intro present
    obtain ⟨before, after, shape⟩ := List.append_of_mem present
    subst text
    rw [GoString.split_append, List.length_append]
    have first := List.length_pos_of_ne_nil (GoString.split_ne_nil before separator)
    have second := List.length_pos_of_ne_nil (GoString.split_ne_nil after separator)
    omega

theorem parseUsername_unnamed (rest : GoString) (absent : colon ∉ rest) :
    parseUsername (GoString.ofLiteral "system:serviceaccount:" ++ rest) =
      .error (.indexOutOfRange 3 3) := by
  have start : GoString.hasPrefix (GoString.ofLiteral "system:serviceaccount:" ++ rest)
      "system:serviceaccount:" = true :=
    (GoString.hasPrefix_iff _ _).mpr ⟨rest, rfl⟩
  unfold parseUsername
  rw [if_pos start, split_serviceAccount, GoString.split_single rest colon absent]
  rfl

theorem parseUsername_ok_iff (username : GoString) :
    (∃ sub, parseUsername username = .ok sub) ↔ namedServiceAccount username := by
  constructor
  · intro parsed rest shape
    by_contra absent
    obtain ⟨sub, same⟩ := parsed
    rw [shape, parseUsername_unnamed rest absent] at same
    cases same
  · intro named
    by_cases start : GoString.hasPrefix username "system:serviceaccount:" = true
    · obtain ⟨rest, shape⟩ := (GoString.hasPrefix_iff username _).mp start
      have long := (two_le_length_split_iff rest colon).mpr (named rest shape)
      cases segments : GoString.split rest colon with
      | nil =>
          rw [segments] at long
          cases long
      | cons nsName afterNs =>
          cases afterNs with
          | nil =>
              rw [segments] at long
              change 2 ≤ 1 at long
              omega
          | cons name tail =>
              refine ⟨serviceAccountSubject nsName name, ?_⟩
              unfold parseUsername
              rw [if_pos start, shape, split_serviceAccount, segments]
              rfl
    · refine ⟨userSubject username, ?_⟩
      unfold parseUsername
      rw [if_neg start]

theorem listNamespaces_totality (order : RangeOrder Namespace) (cache : AccessCache)
    (data : AccessData) (restocked : cache.data = some data) (username : GoString)
    (groups : List GoString) :
    (∃ reply, listNamespaces order cache username groups = .ok reply) ↔
      namedServiceAccount username := by
  rw [← parseUsername_ok_iff]
  constructor
  · intro returned
    obtain ⟨reply, listed⟩ := returned
    cases parsed : parseUsername username with
    | error panic => simp [listNamespaces, subjects, parsed] at listed
    | ok sub => exact ⟨sub, rfl⟩
  · intro parsed
    obtain ⟨sub, same⟩ := parsed
    obtain ⟨items, listed, _ids⟩ := AtomicListRestockCache.listKeys_ids order cache data restocked
      (sub :: groups.map groupSubject)
    exact ⟨_, listNamespaces_of_listKeys order cache username groups sub same items listed⟩

/-- On a restocked cache a reply is returned exactly for usernames that are no
service account's or have a separator after the account's namespace; for all
others the fourth of three segments is read. -/
theorem listNamespaces_returns_iff (order : RangeOrder Namespace) (cache : AccessCache)
    (data : AccessData) (restocked : cache.data = some data) (username : GoString)
    (groups : List GoString) :
    ((∃ reply, listNamespaces order cache username groups = .ok reply) ↔
      namedServiceAccount username) ∧
    (¬namedServiceAccount username →
      listNamespaces order cache username groups = .error (.indexOutOfRange 3 3)) := by
  constructor
  · exact listNamespaces_totality order cache data restocked username groups
  · intro unnamed
    unfold namedServiceAccount at unnamed
    simp only [not_forall] at unnamed
    obtain ⟨rest, shape, absent⟩ := unnamed
    have failed := parseUsername_unnamed rest absent
    rw [← shape] at failed
    simp only [listNamespaces, subjects, failed]

theorem listNamespaces_unnamed_fails :
    ¬∃ reply, listNamespaces (RangeOrder.asKept Namespace)
      ((AtomicListRestockCache.newAtomicListRestockCache Subject Namespace.name).restock ∅)
      "system:serviceaccount:team-a" [] = .ok reply := by
  intro returned
  obtain ⟨reply, listed⟩ := returned
  cases listed

theorem listNamespaces_returns_iff_builder :
    (∃ reply, listNamespaces (RangeOrder.asKept Namespace)
      ((AtomicListRestockCache.newAtomicListRestockCache Subject Namespace.name).restock ∅)
      "system:serviceaccount:team-a:builder" [] = .ok reply) ↔
    namedServiceAccount "system:serviceaccount:team-a:builder" :=
  (listNamespaces_returns_iff (RangeOrder.asKept Namespace)
    ((AtomicListRestockCache.newAtomicListRestockCache Subject Namespace.name).restock ∅)
    ∅ rfl "system:serviceaccount:team-a:builder" []).1

/-! ### Whole requests -/

/-- The username header reaches the lister as it is, so the server answers a
request that carries one exactly when its username is handled. -/
theorem serveRequest_answers_iff (order : RangeOrder Namespace) (cache : AccessCache)
    (data : AccessData) (restocked : cache.data = some data)
    (marshal : NamespaceList → Except GoString GoString) (a : Authenticator) (req : Request)
    (enabled : a.usernameHeader ≠ []) (present : req.get a.usernameHeader ≠ []) :
    (∃ response, serveRequest order cache marshal a req = .ok response) ↔
      namedServiceAccount (req.get a.usernameHeader) := by
  have authenticated : a.authenticateRequest req =
      { response := some
          { name := req.get a.usernameHeader
            groups := req.values a.groupsHeader }
        ok := true
        err := none } := by
    unfold Authenticator.authenticateRequest
    rw [if_pos ⟨enabled, present⟩]
  have returns := listNamespaces_totality order cache data restocked (req.get a.usernameHeader)
    (req.values a.groupsHeader)
  simp only [serveRequest, authenticated, ne_eq, not_true_eq_false, Bool.true_eq_false, or_self,
    if_false, serveListNamespaces]
  rw [← returns]
  cases listed : listNamespaces order cache (req.get a.usernameHeader)
    (req.values a.groupsHeader) with
  | error panic => simp
  | ok nn => cases encoded : marshal nn <;> simp [encoded]

end NamespaceLister

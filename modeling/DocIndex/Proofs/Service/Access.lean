import DocIndex.Service

/-!
# Read-only service and token checks

A verified client receives the scopes the settings grant: searching always, indexing only
when the server is not read-only. Without an access token every presented token is accepted;
with one, exactly that token is, and never an empty one.

A read-only server answers every `index_directory` call whose arguments bind with a refusal,
before it reads the path, runs a reader or opens the store for writing; `search` and
`list_indexes` only read the store. So along any sequence of calls the workspace, and with it
every stored index and the store's generation, stays as it was (`readOnly_service_safe`).
-/

namespace DocIndex

open DocIndex.Data DocIndex.Cli

/-! ## Scopes and tokens -/

/-- Indexing is granted exactly when the server is not read-only. -/
theorem indexScope_mem_grantedScopes (settings : Settings) :
    indexScope ∈ grantedScopes settings ↔ settings.readOnly = false := by
  unfold grantedScopes
  cases settings.readOnly <;> simp [searchScope, indexScope]

/-- A read-only server refuses an operation that needs the indexing scope. -/
theorem requireIndexAccess_of_readOnly {settings : Settings} (readOnly : settings.readOnly = true)
    (operation : String) : requireIndexAccess settings operation = .error (.refused operation) := by
  have refused : indexScope ∉ grantedScopes settings := by
    simp [indexScope_mem_grantedScopes, readOnly]
  simp [requireIndexAccess, refused]

/-- With an access token, a token that is not empty is encoded, then the access token, and
the two are compared. -/
theorem verifyToken_of_filled {settings : Settings} {expected token : String}
    (configured : settings.authToken = some expected) (filled : token ≠ "") :
    verifyToken settings token =
      match encodeStrict token, encodeStrict expected with
      | .error failure, _ => .error failure
      | .ok _, .error failure => .error failure
      | .ok _, .ok _ =>
        .ok (if token = expected then some ⟨token, "authenticated", grantedScopes settings⟩
          else none) := by
  have notEmpty : token.isEmpty = false := by simpa [String.isEmpty_iff] using filled
  unfold verifyToken
  rw [configured]
  simp only [notEmpty, Bool.false_eq_true, if_false]
  cases encodeStrict token <;> cases encodeStrict expected <;>
    by_cases same : token = expected <;> simp [same, bind, Except.bind, pure, Except.pure]

/-- A token is accepted exactly when there is no access token, or when it is the access token,
not empty and encodable as UTF-8. -/
theorem verifyToken_accepts_iff (settings : Settings) (token : String) :
    (∃ access, verifyToken settings token = .ok (some access)) ↔
      settings.authToken = none ∨
        (token ≠ "" ∧ settings.authToken = some token ∧ Text.encodeRefusal? token = none) := by
  cases configured : settings.authToken with
  | none => simp [verifyToken, configured]
  | some expected =>
    by_cases empty : token = ""
    · simp [verifyToken, configured, empty]
    · rw [verifyToken_of_filled configured empty]
      cases encodesToken : encodeStrict token with
      | error failure =>
        obtain ⟨message, refused, -⟩ := encodeStrict_eq_error_iff.mp encodesToken
        simp [refused]
      | ok _ =>
        have encodes := encodeStrict_eq_ok_iff.mp encodesToken
        by_cases same : token = expected
        · subst same
          simp [encodesToken, encodes, empty]
        · cases encodeStrict expected <;> simp [same, Ne.symm same]

/-- The check fails, rather than answering, exactly when there is an access token, the token
is not empty, and the token or else the access token cannot be encoded; it fails with the
first refusal. -/
theorem verifyToken_eq_error_iff (settings : Settings) (token : String) (failure : Failure) :
    verifyToken settings token = .error failure ↔
      ∃ expected, settings.authToken = some expected ∧ token ≠ "" ∧
        ∃ message, failure = .unencodable message ∧
          (Text.encodeRefusal? token = some message ∨
            (Text.encodeRefusal? token = none ∧ Text.encodeRefusal? expected = some message)) := by
  cases configured : settings.authToken with
  | none => simp [verifyToken, configured]
  | some expected =>
    by_cases empty : token = ""
    · simp [verifyToken, configured, empty]
    · rw [verifyToken_of_filled configured empty]
      cases encodesToken : encodeStrict token with
      | error refusal =>
        obtain ⟨message, refused, rfl⟩ := encodeStrict_eq_error_iff.mp encodesToken
        simp [refused, empty, eq_comm]
      | ok _ =>
        have encodes := encodeStrict_eq_ok_iff.mp encodesToken
        cases encodesExpected : encodeStrict expected with
        | error refusal =>
          obtain ⟨message, refused, rfl⟩ := encodeStrict_eq_error_iff.mp encodesExpected
          simp [encodes, refused, empty, eq_comm]
        | ok _ =>
          have expectedEncodes := encodeStrict_eq_ok_iff.mp encodesExpected
          simp [encodes, expectedEncodes]

/-- Every accepted token carries exactly the scopes the settings grant. -/
theorem scopes_of_verifyToken {settings : Settings} {token : String} {access : AccessToken}
    (accepted : verifyToken settings token = .ok (some access)) :
    access.scopes = grantedScopes settings := by
  cases configured : settings.authToken with
  | none =>
    simp only [verifyToken, configured, Except.ok.injEq, Option.some.injEq] at accepted
    rw [← accepted]
  | some expected =>
    by_cases empty : token = ""
    · simp [verifyToken, configured, empty] at accepted
    · rw [verifyToken_of_filled configured empty] at accepted
      cases encodesToken : encodeStrict token <;> cases encodesExpected : encodeStrict expected <;>
        simp only [encodesToken, encodesExpected, reduceCtorEq, Except.ok.injEq] at accepted
      split at accepted
      · cases accepted
        rfl
      · cases accepted

/-! ## One call -/

namespace Server

/-- What a read-only server answers to `index_directory`: the arguments' binding failure, or
else the refusal. -/
def readOnlyAnswer (args : Arguments) : Except Failure Value := do
  checkArguments "index_directory" ["path", "project"] ["path"] args
  throw (.refused "index_directory")

/-- A read-only server refuses to index before it looks at the path, and changes nothing. -/
theorem indexDirectory_of_readOnly {server : Server} (readOnly : server.settings.readOnly = true)
    (workspace : Workspace) (args : Arguments) :
    server.indexDirectory workspace args = (readOnlyAnswer args, workspace) := by
  unfold indexDirectory readOnlyAnswer
  cases checkArguments "index_directory" ["path", "project"] ["path"] args with
  | error failure => rfl
  | ok bound =>
    simp only [requireIndexAccess_of_readOnly readOnly]
    rfl

/-- Searching keeps the server's settings: only its engine moves. -/
theorem search_settings (server : Server) (store : Store) (args : Arguments) :
    (server.search store args).2.settings = server.settings := by
  unfold search
  dsimp only
  split
  · rfl
  · split
    · rfl
    · rfl
    · split
      · rfl
      · split <;> rfl

/-- A call keeps the server's settings. -/
theorem call_settings {server next : Server} {workspace after : Workspace} {tool : String}
    {args : Arguments} {answer : Except Failure Value}
    (called : server.call workspace tool args = some (answer, next, after)) :
    next.settings = server.settings := by
  unfold call at called
  dsimp only at called
  split at called
  · cases called
    exact search_settings server _ args
  · split at called
    · cases called
      rfl
    · split at called
      · cases called
        rfl
      · cases called

/-- A call to a read-only server leaves the workspace as it was, and answers
`index_directory` with the refusal. -/
theorem call_of_readOnly {server next : Server} {workspace after : Workspace} {tool : String}
    {args : Arguments} {answer : Except Failure Value} (readOnly : server.settings.readOnly = true)
    (called : server.call workspace tool args = some (answer, next, after)) :
    after = workspace ∧ (tool = "index_directory" → answer = readOnlyAnswer args) := by
  unfold call at called
  dsimp only at called
  split at called
  · rename_i isSearch
    cases called
    refine ⟨rfl, fun indexing => ?_⟩
    simp [indexing] at isSearch
  · split at called
    · rename_i _ isList
      cases called
      refine ⟨rfl, fun indexing => ?_⟩
      simp [indexing] at isList
    · split at called
      · cases called
        rw [indexDirectory_of_readOnly readOnly]
        exact ⟨rfl, fun _ => rfl⟩
      · cases called

/-! ## Any sequence of calls -/

/-- Serving a read-only server keeps it read-only, leaves the workspace as it was, and answers
every `index_directory` call with the refusal. -/
theorem serve_of_readOnly (calls : List (String × Arguments)) :
    ∀ (server : Server) (workspace : Workspace), server.settings.readOnly = true →
      (server.serve workspace calls).2.1.settings.readOnly = true ∧
        (server.serve workspace calls).2.2 = workspace ∧
        ∀ call ∈ calls.zip (server.serve workspace calls).1, call.1.1 = "index_directory" →
          call.2 = some (readOnlyAnswer call.1.2) := by
  induction calls with
  | nil =>
    intro server workspace readOnly
    exact ⟨readOnly, rfl, by simp⟩
  | cons call rest ih =>
    obtain ⟨tool, args⟩ := call
    intro server workspace readOnly
    unfold serve
    cases called : server.call workspace tool args with
    | none =>
      obtain ⟨stays, kept, refusals⟩ := ih server workspace readOnly
      refine ⟨stays, kept, fun reply member indexing => ?_⟩
      rcases List.mem_cons.mp member with rfl | later
      · have offered : server.call workspace "index_directory" args ≠ none := by
          simp [call]
        exact absurd (indexing ▸ called) offered
      · exact refusals reply later indexing
    | some step =>
      obtain ⟨answer, next, after⟩ := step
      obtain ⟨same, firstAnswer⟩ := call_of_readOnly readOnly called
      have nextReadOnly : next.settings.readOnly = true := by
        rw [call_settings called, readOnly]
      obtain ⟨stays, kept, refusals⟩ := ih next after nextReadOnly
      refine ⟨stays, kept.trans same, fun reply member indexing => ?_⟩
      rcases List.mem_cons.mp member with rfl | later
      · exact congrArg some (firstAnswer indexing)
      · exact refusals reply later indexing

end Server

/-- A read-only server never changes the store: along any sequence of tool calls the
workspace, with its stored indexes and generation, stays as it was, and every
`index_directory` call is refused before its path is looked at. Tokens are checked exactly:
one is accepted iff there is no access token or it is that token, not empty and encodable as
UTF-8; the check fails, rather than answering, iff there is an access token, the token is not
empty and it or the access token holds a lone surrogate; and an accepted token carries the
granted scopes, which include indexing iff the server is not read-only. -/
theorem readOnly_service_safe (server : Server) (token : String) :
    (server.settings.readOnly = true →
      ∀ (workspace : Workspace) (calls : List (String × Arguments)),
        (server.serve workspace calls).2.2 = workspace ∧
        ∀ call ∈ calls.zip (server.serve workspace calls).1, call.1.1 = "index_directory" →
          call.2 = some (Server.readOnlyAnswer call.1.2)) ∧
    ((∃ access, verifyToken server.settings token = .ok (some access)) ↔
      server.settings.authToken = none ∨
        (token ≠ "" ∧ server.settings.authToken = some token ∧
          Text.encodeRefusal? token = none)) ∧
    (∀ failure : Failure, verifyToken server.settings token = .error failure ↔
      ∃ expected, server.settings.authToken = some expected ∧ token ≠ "" ∧
        ∃ message, failure = .unencodable message ∧
          (Text.encodeRefusal? token = some message ∨
            (Text.encodeRefusal? token = none ∧ Text.encodeRefusal? expected = some message))) ∧
    (∀ access : AccessToken, verifyToken server.settings token = .ok (some access) →
      access.scopes = grantedScopes server.settings) ∧
    (indexScope ∈ grantedScopes server.settings ↔ server.settings.readOnly = false) := by
  refine ⟨fun readOnly workspace calls => ?_, verifyToken_accepts_iff _ _,
    fun _ => verifyToken_eq_error_iff _ _ _, fun _ accepted => scopes_of_verifyToken accepted,
    indexScope_mem_grantedScopes _⟩
  obtain ⟨-, kept, refusals⟩ := Server.serve_of_readOnly calls server workspace readOnly
  exact ⟨kept, refusals⟩

/-- A read-only server with an access token, asked to index a directory and then to search:
the workspace stays as it was, the indexing call is refused, and the access token is accepted
with the search scope alone. -/
theorem readOnly_server_refuses_indexing :
    (⟨⟨⟨"", []⟩, ⟨"", ["index.db"]⟩, 3333, some "token", true, 4⟩, {}⟩ : Server).settings.readOnly =
        true ∧
      ((⟨⟨⟨"", []⟩, ⟨"", ["index.db"]⟩, 3333, some "token", true, 4⟩, {}⟩ : Server).serve
          ⟨⟨.empty, [], [], [], ⟨fun _ => [], fun _ => [], fun _ => .ok none⟩, Schedule.inOrder⟩,
            {}⟩
          [("index_directory", [("path", .text "src")]),
            ("search", [("query", .text "run")])]).2.2 =
        ⟨⟨.empty, [], [], [], ⟨fun _ => [], fun _ => [], fun _ => .ok none⟩, Schedule.inOrder⟩,
          {}⟩ ∧
      verifyToken ⟨⟨"", []⟩, ⟨"", ["index.db"]⟩, 3333, some "token", true, 4⟩ "token" =
        .ok (some ⟨"token", "authenticated", [searchScope]⟩) ∧
      [searchScope] = grantedScopes ⟨⟨"", []⟩, ⟨"", ["index.db"]⟩, 3333, some "token", true, 4⟩ :=
  have accepted : verifyToken ⟨⟨"", []⟩, ⟨"", ["index.db"]⟩, 3333, some "token", true, 4⟩ "token" =
      .ok (some ⟨"token", "authenticated", [searchScope]⟩) := rfl
  have safe := readOnly_service_safe
    ⟨⟨⟨"", []⟩, ⟨"", ["index.db"]⟩, 3333, some "token", true, 4⟩, {}⟩ "token"
  ⟨rfl, (safe.1 rfl _ _).1, accepted, safe.2.2.2.1 _ accepted⟩

/-- An access token of 32 characters whose last is a lone surrogate, as the settings read it
from an environment variable with a byte that is no UTF-8, presented as the token itself:
encoding the presented token fails, so the check raises instead of accepting it. -/
theorem surrogate_token_fails_to_encode :
    verifyToken ⟨⟨"", []⟩, ⟨"", ["index.db"]⟩, 3333,
        some ("xxxxxxxxxxxxxxxxxxxxxxxxxxxxxxx" ++ String.singleton (Text.standIn 0xDCFF)), false, 4⟩
        ("xxxxxxxxxxxxxxxxxxxxxxxxxxxxxxx" ++ String.singleton (Text.standIn 0xDCFF)) =
      .error (.unencodable
        "'utf-8' codec can't encode character '\\udcff' in position 31: surrogates not allowed") := by
  rw [verifyToken_of_filled rfl (by decide)]
  rfl

end DocIndex

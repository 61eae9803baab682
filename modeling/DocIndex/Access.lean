import DocIndex.Settings

/-!
# Access control

Every verified client may search; indexing is granted only when the server is not
read-only. Without an access token every presented token is accepted as an anonymous
client; with one, only that exact token is accepted, compared byte by byte in UTF-8, so a
lone surrogate in either token makes the check fail.
-/

namespace DocIndex

/-- The scope that allows searching. -/
def searchScope : String := "search"

/-- The scope that allows indexing. -/
def indexScope : String := "index"

/-- The scopes a verified client receives. -/
def grantedScopes (settings : Settings) : List String :=
  if settings.readOnly then [searchScope] else [searchScope, indexScope]

/-- A verified client's credentials. -/
structure AccessToken where
  token : String
  clientId : String
  scopes : List String
  deriving DecidableEq, Repr

/-- Whether the server checks tokens at all. -/
def hasTokenCheck (settings : Settings) : Bool :=
  settings.authToken.isSome

/-- Verify a presented token: its credentials, or none when it is refused. A token and the
access token are compared as their UTF-8 bytes, the presented one encoded first. -/
def verifyToken (settings : Settings) (token : String) : Except Failure (Option AccessToken) :=
  let scopes := grantedScopes settings
  match settings.authToken with
  | none => .ok (some ⟨if token.isEmpty then "anonymous" else token, "anonymous", scopes⟩)
  | some expected =>
    if token.isEmpty then .ok none
    else do
      encodeStrict token
      encodeStrict expected
      if token == expected then pure (some ⟨token, "authenticated", scopes⟩) else pure none

/-- Refuse an operation unless indexing is granted. -/
def requireIndexAccess (settings : Settings) (operation : String) : Except Failure Unit :=
  if (grantedScopes settings).contains indexScope then .ok ()
  else .error (.refused operation)

end DocIndex

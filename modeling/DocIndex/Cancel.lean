import DocIndex.Data.Show
import DocIndex.Failure

/-!
# Cancellation tokens

A token is cancelled when it was cancelled by hand, when its deadline has passed, or when
its parent is cancelled. Deadlines are either already passed (a timeout of zero) or too
distant to pass during a run. Reading whether a token is cancelled records
`deadline exceeded` as its reason when its deadline is what cancels it; a token not
cancelled by hand reports its cancelled parent's reason.

Tokens live in a pool and name their parent by its position there; a parent always comes
before its children.
-/

namespace DocIndex

open DocIndex.Data

/-- When a token's deadline passes. -/
inductive Deadline where
  | unset
  | passed
  | distant
  deriving DecidableEq, Repr

/-- A cancellation token. -/
structure Token where
  signalled : Bool
  deadline : Deadline
  parent : Option Nat
  reason : String

/-- The reason a token reports when nothing more specific is known. -/
def defaultReason : String := "operation cancelled"

/-- The deadline a timeout in seconds sets: a negative timeout is refused, zero has already
passed, and any other timeout outlasts the run. -/
def deadlineOf : Value → Except Failure Deadline
  | .null => .ok .unset
  | .int n =>
    if n < 0 then .error (.badValue ("Timeout must be >= 0, got " ++ toString n))
    else if n = 0 then .ok .passed else .ok .distant
  | .float x =>
    if x < 0 then .error (.badValue ("Timeout must be >= 0, got " ++ floatText x))
    else if x == 0 then .ok .passed else .ok .distant
  | .bool flag => .ok (if flag then .distant else .passed)
  | other =>
    .error (.badType ("'<' not supported between instances of '" ++ other.kindName ++
      "' and 'int'"))

/-- A fresh token. -/
def Token.fresh (deadline : Deadline) (parent : Option Nat) : Token :=
  { signalled := false, deadline, parent, reason := defaultReason }

/-- A pool of tokens, each at its position. -/
abbrev TokenPool := List Token

namespace TokenPool

/-- Add a token; its position is the pool's former size. -/
def add (pool : TokenPool) (token : Token) : TokenPool × Nat :=
  (pool ++ [token], pool.length)

/-- Cancel the token at a position by hand, recording the reason. -/
def cancel (pool : TokenPool) (position : Nat) (reason : String) : TokenPool :=
  pool.modify position fun token => { token with signalled := true, reason }

/-- Whether the token at a position is cancelled, and the pool after the reading, which
records a passed deadline as a reason. `fuel` bounds the walk up the parents. -/
def readCancelled (pool : TokenPool) (position : Nat) : Nat → Bool × TokenPool
  | 0 => (false, pool)
  | fuel + 1 =>
    match pool[position]? with
    | none => (false, pool)
    | some token =>
      if token.signalled then (true, pool)
      else if token.deadline = .passed then
        (true, pool.modify position fun token => { token with reason := "deadline exceeded" })
      else
        match token.parent with
        | some parent => pool.readCancelled parent fuel
        | none => (false, pool)

/-- The reason the token at a position reports, and the pool after the reading: a token not
cancelled by hand whose parent is cancelled reports the parent's reason. -/
def readReason (pool : TokenPool) (position : Nat) : Nat → String × TokenPool
  | 0 => (defaultReason, pool)
  | fuel + 1 =>
    match pool[position]? with
    | none => (defaultReason, pool)
    | some token =>
      match token.parent with
      | some parent =>
        if token.signalled then (token.reason, pool)
        else
          let (parentCancelled, read) := pool.readCancelled parent pool.length
          if parentCancelled then read.readReason parent fuel
          else (token.reason, read)
      | none => (token.reason, pool)

/-- Whether the token at a position is cancelled. -/
def cancelled (pool : TokenPool) (position : Nat) : Bool × TokenPool :=
  pool.readCancelled position pool.length

/-- The reason the token at a position reports. -/
def reason (pool : TokenPool) (position : Nat) : String × TokenPool :=
  pool.readReason position pool.length

/-- Stop when the token at a position is cancelled, with its reason. -/
def check (pool : TokenPool) (position : Nat) : Except Failure Unit × TokenPool :=
  let (stopped, read) := pool.cancelled position
  if stopped then
    let (why, after) := read.reason position
    (.error (.cancelled why), after)
  else (.ok (), read)

end TokenPool

end DocIndex

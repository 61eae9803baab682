import DocIndex.Cancel

/-!
# Cancellation is a monotone signal inherited from parents

A run over a token pool creates tokens, cancels them by hand and reads them, in any order.
What a run has done is kept per token as its history: the deadline and parent it was created
with, and the reason of the last cancel call on it. Against that history a token is
`Cancelled` when it was cancelled by hand, its deadline passed, or its parent is cancelled;
it `Reports` the reason of the last cancel call on it, else its cancelled parent's reason,
else `deadline exceeded`.

The pool agrees with the history after every run. A token reads as cancelled exactly when it
is cancelled, and then stays so; cancelling a token leaves its parent as it was; a check
stops with the reported reason. Reading a reason alone gives the reported reason too, except
for a token whose only cause is its own passed deadline and which no evaluation of the run has
looked at (`ExaminedIn`, through `Reaches` and `ReasonReaches`): that token still carries the
default reason.

The pool side rests on three facts: a sound pool keeps parents before children and an
unsignalled token's reason is the default or a recorded passed deadline; reading a pool only
records passed deadlines (`TokenPool.Recorded`), which the history cannot see; and a reading
leaves `TokenPool.Examined` every token its evaluation looks at, and no other token changed.

Main statement: `tokens_signal_monotonically`.
-/

namespace DocIndex

/-- What a run has done to one token: the deadline and parent it was created with, and the
reason of the last cancel call on it. -/
structure Issued where
  deadline : Deadline
  parent : Option Nat
  lastCancel : Option String
  deriving DecidableEq

/-- One operation of a run on a token pool. -/
inductive TokenOp where
  | create (deadline : Deadline) (parent : Option Nat)
  | cancel (position : Nat) (reason : String)
  | readCancelled (position : Nat)
  | readReason (position : Nat)
  | check (position : Nat)
  deriving DecidableEq

namespace TokenOp

/-- The history after an operation: a creation adds a token, a cancel call records its reason,
and readings leave the history alone. -/
def issue (tokens : List Issued) : TokenOp → List Issued
  | .create deadline parent => tokens ++ [⟨deadline, parent, none⟩]
  | .cancel position reason =>
    tokens.modify position fun token => { token with lastCancel := some reason }
  | .readCancelled _ | .readReason _ | .check _ => tokens

/-- The pool after an operation. -/
def apply (pool : TokenPool) : TokenOp → TokenPool
  | .create deadline parent => (pool.add (Token.fresh deadline parent)).1
  | .cancel position reason => pool.cancel position reason
  | .readCancelled position => (pool.cancelled position).2
  | .readReason position => (pool.reason position).2
  | .check position => (pool.check position).2

/-- An operation fits a pool of `size` tokens when it names only tokens created before it. -/
def Fits (size : Nat) : TokenOp → Prop
  | .create _ parent => ∀ position ∈ parent, position < size
  | .cancel position _ | .readCancelled position | .readReason position | .check position =>
    position < size

instance decidableFits (size : Nat) : (op : TokenOp) → Decidable (op.Fits size)
  | .create _ parent => inferInstanceAs (Decidable (∀ position ∈ parent, position < size))
  | .cancel position _ | .readCancelled position | .readReason position | .check position =>
    inferInstanceAs (Decidable (position < size))

end TokenOp

/-- The history of a run. -/
def issued (ops : List TokenOp) : List Issued := ops.foldl TokenOp.issue []

/-- The pool a run leaves. -/
def runTokens (ops : List TokenOp) : TokenPool := ops.foldl TokenOp.apply []

/-- A run whose every operation names only tokens created before it. -/
inductive ValidRun : List TokenOp → Prop
  | nil : ValidRun []
  | snoc {ops : List TokenOp} {op : TokenOp} :
      ValidRun ops → op.Fits (issued ops).length → ValidRun (ops ++ [op])

@[simp] theorem issued_nil : issued [] = [] := rfl

@[simp] theorem issued_snoc (ops : List TokenOp) (op : TokenOp) :
    issued (ops ++ [op]) = TokenOp.issue (issued ops) op := by
  simp [issued]

@[simp] theorem runTokens_nil : runTokens [] = [] := rfl

@[simp] theorem runTokens_snoc (ops : List TokenOp) (op : TokenOp) :
    runTokens (ops ++ [op]) = TokenOp.apply (runTokens ops) op := by
  simp [runTokens]

/-! ## Cancellation and reasons of a history -/

/-- The tokens a history cancels: by hand, by a passed deadline, or through a cancelled
parent. -/
inductive Cancelled (tokens : List Issued) : Nat → Prop
  | byHand {position : Nat} {token : Issued} {reason : String} :
      tokens[position]? = some token → token.lastCancel = some reason → Cancelled tokens position
  | byDeadline {position : Nat} {token : Issued} :
      tokens[position]? = some token → token.deadline = .passed → Cancelled tokens position
  | byParent {position parent : Nat} {token : Issued} :
      tokens[position]? = some token → token.parent = some parent → Cancelled tokens parent →
        Cancelled tokens position

/-- The reason a cancelled token reports: the last cancel call's, else its cancelled parent's,
else that its deadline passed. -/
inductive Reports (tokens : List Issued) : Nat → String → Prop
  | byHand {position : Nat} {token : Issued} {reason : String} :
      tokens[position]? = some token → token.lastCancel = some reason →
        Reports tokens position reason
  | fromParent {position parent : Nat} {token : Issued} {reason : String} :
      tokens[position]? = some token → token.lastCancel = none → token.parent = some parent →
        Reports tokens parent reason → Reports tokens position reason
  | byDeadline {position : Nat} {token : Issued} :
      tokens[position]? = some token → token.lastCancel = none → token.deadline = .passed →
        (∀ parent, token.parent = some parent → ¬ Cancelled tokens parent) →
        Reports tokens position "deadline exceeded"

/-- A token that nothing but its own passed deadline cancels. -/
def OnlyOwnDeadline (tokens : List Issued) (position : Nat) : Prop :=
  ∃ token, tokens[position]? = some token ∧ token.lastCancel = none ∧
    token.deadline = .passed ∧ ∀ parent, token.parent = some parent → ¬ Cancelled tokens parent

/-- Every token comes after its parent. -/
def ParentsFirst (tokens : List Issued) : Prop :=
  ∀ position (token : Issued) parent, tokens[position]? = some token →
    token.parent = some parent → parent < position

/-- The tokens an evaluation of whether a token is cancelled looks at: the token itself and,
while the token looked at is neither cancelled by hand nor past its deadline, its parent. -/
inductive Reaches (tokens : List Issued) : Nat → Nat → Prop
  | here {position : Nat} {token : Issued} :
      tokens[position]? = some token → Reaches tokens position position
  | up {position parent target : Nat} {token : Issued} :
      tokens[position]? = some token → token.lastCancel = none → token.deadline ≠ .passed →
        token.parent = some parent → Reaches tokens parent target → Reaches tokens position target

/-- The tokens an evaluation of a token's reason looks at: for a token not cancelled by hand,
those the evaluation of whether its parent is cancelled looks at, and, when the parent is
cancelled, those the evaluation of the parent's reason looks at. -/
inductive ReasonReaches (tokens : List Issued) : Nat → Nat → Prop
  | parent {position parent target : Nat} {token : Issued} :
      tokens[position]? = some token → token.lastCancel = none → token.parent = some parent →
        Reaches tokens parent target → ReasonReaches tokens position target
  | parentReason {position parent target : Nat} {token : Issued} :
      tokens[position]? = some token → token.lastCancel = none → token.parent = some parent →
        Cancelled tokens parent → ReasonReaches tokens parent target →
          ReasonReaches tokens position target

/-- The tokens an operation evaluates whether cancelled, against the history at its time: a
check reads whether its token is cancelled and, when it is, the token's reason. -/
def TokenOp.Examines (tokens : List Issued) : TokenOp → Nat → Prop
  | .readCancelled position, target => Reaches tokens position target
  | .readReason position, target => ReasonReaches tokens position target
  | .check position, target =>
    Reaches tokens position target ∨ Cancelled tokens position ∧ ReasonReaches tokens position target
  | .create _ _, _ => False
  | .cancel _ _, _ => False

/-- Some operation of a run evaluated whether a token is cancelled and looked at it. -/
def ExaminedIn (ops : List TokenOp) (target : Nat) : Prop :=
  ∃ before op after, ops = before ++ op :: after ∧ op.Examines (issued before) target

section History

variable {tokens : List Issued}

theorem Cancelled.exists_token {position : Nat} (cancelled : Cancelled tokens position) :
    ∃ token, tokens[position]? = some token := by
  cases cancelled with
  | byHand found _ => exact ⟨_, found⟩
  | byDeadline found _ => exact ⟨_, found⟩
  | byParent found _ _ => exact ⟨_, found⟩

theorem Cancelled.lt_length {position : Nat}
    (cancelled : Cancelled tokens position) : position < tokens.length := by
  obtain ⟨token, found⟩ := cancelled.exists_token
  exact (List.getElem?_eq_some_iff.mp found).1

/-- A token is cancelled exactly when it was cancelled by hand, its deadline passed, or its
parent is cancelled. -/
theorem cancelled_iff {position : Nat} {token : Issued} (found : tokens[position]? = some token) :
    Cancelled tokens position ↔
      token.lastCancel ≠ none ∨ token.deadline = .passed ∨
        ∃ parent, token.parent = some parent ∧ Cancelled tokens parent := by
  constructor
  · intro cancelled
    cases cancelled with
    | byHand found' hand =>
      obtain rfl := Option.some.inj (found.symm.trans found')
      exact .inl (by simp [hand])
    | byDeadline found' passed =>
      obtain rfl := Option.some.inj (found.symm.trans found')
      exact .inr (.inl passed)
    | byParent found' parentEq parentCancelled =>
      obtain rfl := Option.some.inj (found.symm.trans found')
      exact .inr (.inr ⟨_, parentEq, parentCancelled⟩)
  · rintro (hand | passed | ⟨parent, parentEq, parentCancelled⟩)
    · obtain ⟨reason, hand⟩ := Option.ne_none_iff_exists'.mp hand
      exact .byHand found hand
    · exact .byDeadline found passed
    · exact .byParent found parentEq parentCancelled

theorem Reports.cancelled {position : Nat} {reason : String}
    (reports : Reports tokens position reason) : Cancelled tokens position := by
  induction reports with
  | byHand found hand => exact .byHand found hand
  | fromParent found _ parentEq _ parentCancelled => exact .byParent found parentEq parentCancelled
  | byDeadline found _ passed _ => exact .byDeadline found passed

/-- A token reports one reason at most. -/
theorem Reports.unique {position : Nat} {first second : String}
    (reportsFirst : Reports tokens position first)
    (reportsSecond : Reports tokens position second) : first = second := by
  induction reportsFirst generalizing second with
  | byHand found hand =>
    cases reportsSecond with
    | byHand found' hand' =>
      obtain rfl := Option.some.inj (found.symm.trans found')
      exact Option.some.inj (hand.symm.trans hand')
    | fromParent found' noHand _ _ =>
      obtain rfl := Option.some.inj (found.symm.trans found')
      cases hand.symm.trans noHand
    | byDeadline found' noHand _ _ =>
      obtain rfl := Option.some.inj (found.symm.trans found')
      cases hand.symm.trans noHand
  | fromParent found noHand parentEq parentReports sameAsParent =>
    cases reportsSecond with
    | byHand found' hand =>
      obtain rfl := Option.some.inj (found.symm.trans found')
      cases hand.symm.trans noHand
    | fromParent found' _ parentEq' parentReports =>
      obtain rfl := Option.some.inj (found.symm.trans found')
      obtain rfl := Option.some.inj (parentEq.symm.trans parentEq')
      exact sameAsParent parentReports
    | byDeadline found' _ _ noParent =>
      obtain rfl := Option.some.inj (found.symm.trans found')
      exact absurd parentReports.cancelled (noParent _ parentEq)
  | byDeadline found noHand _ noParent =>
    cases reportsSecond with
    | byHand found' hand =>
      obtain rfl := Option.some.inj (found.symm.trans found')
      cases hand.symm.trans noHand
    | fromParent found' _ parentEq parentReports =>
      obtain rfl := Option.some.inj (found.symm.trans found')
      exact absurd parentReports.cancelled (noParent _ parentEq)
    | byDeadline => rfl

/-- A token cancelled neither by hand nor through its parent reports its passed deadline, and
nothing else cancels it. -/
theorem Reports.onlyOwnDeadline {position : Nat} {token : Issued} {reason : String}
    (found : tokens[position]? = some token) (noHand : token.lastCancel = none)
    (noParent : ∀ parent, token.parent = some parent → ¬ Cancelled tokens parent)
    (reports : Reports tokens position reason) :
    OnlyOwnDeadline tokens position ∧ reason = "deadline exceeded" := by
  cases reports with
  | byHand found' hand =>
    obtain rfl := Option.some.inj (found.symm.trans found')
    cases hand.symm.trans noHand
  | fromParent found' _ parentEq parentReports =>
    obtain rfl := Option.some.inj (found.symm.trans found')
    exact absurd parentReports.cancelled (noParent _ parentEq)
  | byDeadline found' _ passed _ =>
    obtain rfl := Option.some.inj (found.symm.trans found')
    exact ⟨⟨token, found, noHand, passed, noParent⟩, rfl⟩

/-- A token that only its own passed deadline cancels reports that. -/
theorem OnlyOwnDeadline.reported {position : Nat} {reason : String}
    (only : OnlyOwnDeadline tokens position) (reports : Reports tokens position reason) :
    reason = "deadline exceeded" := by
  obtain ⟨token, found, noHand, _, noParent⟩ := only
  exact (reports.onlyOwnDeadline found noHand noParent).2

/-- A token not cancelled by hand whose parent is cancelled reports what its parent reports. -/
theorem Reports.of_cancelled_parent {position parent : Nat} {token : Issued} {reason : String}
    (found : tokens[position]? = some token) (noHand : token.lastCancel = none)
    (parentEq : token.parent = some parent) (parentCancelled : Cancelled tokens parent)
    (reports : Reports tokens position reason) : Reports tokens parent reason := by
  cases reports with
  | byHand found' hand =>
    obtain rfl := Option.some.inj (found.symm.trans found')
    cases hand.symm.trans noHand
  | fromParent found' _ parentEq' parentReports =>
    obtain rfl := Option.some.inj (found.symm.trans found')
    obtain rfl := Option.some.inj (parentEq.symm.trans parentEq')
    exact parentReports
  | byDeadline found' _ _ noParent =>
    obtain rfl := Option.some.inj (found.symm.trans found')
    exact absurd parentCancelled (noParent parent parentEq)

/-- When parents come first, every cancelled token reports a reason; the recursion walks up
the parents. -/
theorem Cancelled.exists_reports (parentsFirst : ParentsFirst tokens) {position : Nat}
    (cancelled : Cancelled tokens position) : ∃ reason, Reports tokens position reason := by
  induction position using Nat.strongRecOn with
  | ind position earlier =>
  obtain ⟨token, found⟩ := cancelled.exists_token
  cases hand : token.lastCancel with
  | some reason => exact ⟨reason, .byHand found hand⟩
  | none =>
    by_cases inherited : ∃ parent, token.parent = some parent ∧ Cancelled tokens parent
    · obtain ⟨parent, parentEq, parentCancelled⟩ := inherited
      have before := parentsFirst position token parent found parentEq
      obtain ⟨reason, parentReports⟩ := earlier parent before parentCancelled
      exact ⟨reason, .fromParent found hand parentEq parentReports⟩
    · have passed : token.deadline = .passed := by
        rcases (cancelled_iff found).mp cancelled with byHand | passed | inherits
        · exact absurd hand byHand
        · exact passed
        · exact absurd inherits inherited
      refine ⟨_, .byDeadline found hand passed ?_⟩
      intro parent parentEq parentCancelled
      exact inherited ⟨parent, parentEq, parentCancelled⟩

/-! ### Cancellation only grows -/

theorem getElem?_append_of_eq_some {α : Type} {items : List α} {position : Nat} {item : α}
    (more : List α) (found : items[position]? = some item) : (items ++ more)[position]? = some item := by
  rw [List.getElem?_append_left (List.getElem?_eq_some_iff.mp found).1]
  exact found

theorem Cancelled.append (more : List Issued) {position : Nat}
    (cancelled : Cancelled tokens position) : Cancelled (tokens ++ more) position := by
  induction cancelled with
  | byHand found hand => exact .byHand (getElem?_append_of_eq_some more found) hand
  | byDeadline found passed => exact .byDeadline (getElem?_append_of_eq_some more found) passed
  | byParent found parentEq _ parentCancelled =>
    exact .byParent (getElem?_append_of_eq_some more found) parentEq parentCancelled

theorem getElem?_append_singleton_eq_some {α : Type} {items : List α} {item found : α}
    {position : Nat} (lookup : (items ++ [item])[position]? = some found) :
    items[position]? = some found ∨ position = items.length ∧ found = item := by
  rw [List.getElem?_append] at lookup
  split at lookup
  · exact .inl lookup
  · simp only [List.getElem?_singleton, Option.ite_none_right_eq_some, Option.some.injEq] at lookup
    exact .inr ⟨by omega, lookup.2.symm⟩

theorem getElem?_modify_of_eq_some {α : Type} {items : List α} {target position : Nat}
    {item : α} (change : α → α) (found : items[position]? = some item) :
    (items.modify target change)[position]? =
      some (if target = position then change item else item) := by
  rw [List.getElem?_modify, found]
  split <;> rfl

theorem exists_of_getElem?_modify {α : Type} {items : List α} {target position : Nat}
    {item : α} {change : α → α} (found : (items.modify target change)[position]? = some item) :
    ∃ original, items[position]? = some original ∧
      item = if target = position then change original else original := by
  rw [List.getElem?_modify] at found
  cases lookup : items[position]? with
  | none => simp [lookup] at found
  | some original =>
    rw [lookup] at found
    exact ⟨original, rfl, (Option.some.inj found).symm⟩

theorem Cancelled.cancel_by_hand (target : Nat) (reason : String) {position : Nat}
    (cancelled : Cancelled tokens position) :
    Cancelled (tokens.modify target fun token => { token with lastCancel := some reason })
      position := by
  induction cancelled with
  | byHand found hand =>
    refine (cancelled_iff (getElem?_modify_of_eq_some _ found)).mpr (.inl ?_)
    split <;> simp [hand]
  | byDeadline found passed =>
    exact .byDeadline (getElem?_modify_of_eq_some _ found) (by split <;> exact passed)
  | byParent found parentEq _ parentCancelled =>
    exact .byParent (getElem?_modify_of_eq_some _ found) (by split <;> exact parentEq)
      parentCancelled

/-- No operation undoes a cancellation. -/
theorem Cancelled.issue (op : TokenOp) {position : Nat} (cancelled : Cancelled tokens position) :
    Cancelled (op.issue tokens) position := by
  cases op with
  | create deadline parent => exact cancelled.append _
  | cancel target reason => exact cancelled.cancel_by_hand target reason
  | readCancelled => exact cancelled
  | readReason => exact cancelled
  | check => exact cancelled

/-! ### Tokens before a change keep their cancellation -/

theorem Cancelled.of_agree {other : List Issued} {bound : Nat}
    (agree : ∀ position < bound, other[position]? = tokens[position]?)
    (parentsFirst : ∀ position < bound, ∀ (token : Issued) parent,
      tokens[position]? = some token → token.parent = some parent → parent < position)
    {position : Nat} (below : position < bound) (cancelled : Cancelled tokens position) :
    Cancelled other position := by
  induction cancelled with
  | byHand found hand => exact .byHand ((agree _ below).trans found) hand
  | byDeadline found passed => exact .byDeadline ((agree _ below).trans found) passed
  | byParent found parentEq _ parentCancelled =>
    have before := parentsFirst _ below _ _ found parentEq
    exact .byParent ((agree _ below).trans found) parentEq (parentCancelled (by omega))

/-- Two histories that agree on the tokens before `bound` cancel the same tokens there. -/
theorem cancelled_iff_of_agree {other : List Issued} {bound : Nat}
    (agree : ∀ position < bound, other[position]? = tokens[position]?)
    (parentsFirst : ParentsFirst tokens) {position : Nat} (below : position < bound) :
    Cancelled other position ↔ Cancelled tokens position := by
  constructor
  · refine Cancelled.of_agree (fun position below => (agree position below).symm) ?_ below
    intro position below token parent found
    exact parentsFirst position token parent ((agree position below).symm.trans found)
  · exact Cancelled.of_agree agree (fun position _ => parentsFirst position) below

/-! ### What evaluations look at -/

theorem Reaches.exists_start {position target : Nat} (reaches : Reaches tokens position target) :
    ∃ token, tokens[position]? = some token := by
  cases reaches with
  | here found => exact ⟨_, found⟩
  | up found _ _ _ _ => exact ⟨_, found⟩

theorem ReasonReaches.exists_start {position target : Nat}
    (reaches : ReasonReaches tokens position target) : ∃ token, tokens[position]? = some token := by
  cases reaches with
  | parent found _ _ _ => exact ⟨_, found⟩
  | parentReason found _ _ _ _ => exact ⟨_, found⟩

theorem not_examinedIn_nil (target : Nat) : ¬ ExaminedIn [] target := by
  rintro ⟨before, op, after, split, -⟩
  simp at split

/-- The tokens a run has examined are those its earlier operations examined and those its
last operation examines. -/
theorem examinedIn_snoc (ops : List TokenOp) (op : TokenOp) (target : Nat) :
    ExaminedIn (ops ++ [op]) target ↔ ExaminedIn ops target ∨ op.Examines (issued ops) target := by
  constructor
  · rintro ⟨before, middle, after, split, examines⟩
    rcases List.eq_nil_or_concat after with rfl | ⟨rest, last, rfl⟩
    · obtain ⟨rfl, same⟩ := List.append_inj' split rfl
      obtain rfl : op = middle := by simpa using same
      exact .inr examines
    · have regrouped : ops ++ [op] = (before ++ middle :: rest) ++ [last] := by
        simp [split, List.concat_eq_append]
      obtain ⟨rfl, -⟩ := List.append_inj' regrouped rfl
      exact .inl ⟨before, middle, rest, rfl, examines⟩
  · rintro (⟨before, middle, after, rfl, examines⟩ | examines)
    · exact ⟨before, middle, after ++ [op], by simp, examines⟩
    · exact ⟨ops, op, [], rfl, examines⟩

end History

/-! ## The pool's view of the history -/

namespace Token

/-- The history a pool token keeps: its reason is a cancel call's only once it was cancelled
by hand. -/
def view (token : Token) : Issued :=
  ⟨token.deadline, token.parent, if token.signalled then some token.reason else none⟩

@[simp] theorem view_deadline (token : Token) : token.view.deadline = token.deadline := rfl

@[simp] theorem view_parent (token : Token) : token.view.parent = token.parent := rfl

@[simp] theorem view_lastCancel_eq_none_iff (token : Token) :
    token.view.lastCancel = none ↔ token.signalled = false := by
  cases signalled : token.signalled <;> simp [view, signalled]

end Token

namespace TokenPool

/-- What every pool a run builds satisfies: parents come before their children, and a token
not cancelled by hand carries the default reason or a recorded passed deadline. -/
structure Sound (pool : TokenPool) : Prop where
  parentsFirst : ParentsFirst (pool.map Token.view)
  unsignalled : ∀ (position : Nat) (token : Token), pool[position]? = some token →
    token.signalled = false →
    token.reason = defaultReason ∨ token.reason = "deadline exceeded" ∧ token.deadline = .passed

/-- `after` differs from `pool` at most by `deadline exceeded` recorded as the reason of tokens
not cancelled by hand whose deadline passed: all that reading a pool changes. -/
def Recorded (pool after : TokenPool) : Prop :=
  ∀ position : Nat, after[position]? = pool[position]? ∨
    ∃ token : Token, pool[position]? = some token ∧ token.signalled = false ∧
      token.deadline = .passed ∧ after[position]? = some { token with reason := "deadline exceeded" }

/-- The token at a position exists and, if its own passed deadline cancels it, has recorded
that as its reason. -/
def Examined (pool : TokenPool) (position : Nat) : Prop :=
  ∃ token : Token, pool[position]? = some token ∧
    (token.signalled = false → token.deadline = .passed → token.reason = "deadline exceeded")

variable {pool : TokenPool}

theorem getElem?_map_view {position : Nat} {token : Token} (found : pool[position]? = some token) :
    (pool.map Token.view)[position]? = some token.view := by
  simp [found]

/-- In a sound pool a token's parent comes before it, so it is in the pool too. -/
theorem Sound.parent_within (sound : Sound pool) {position parent : Nat} {token : Token}
    (found : pool[position]? = some token) (parentEq : token.parent = some parent) :
    parent < position ∧ parent < pool.length := by
  have before := sound.parentsFirst position token.view parent (getElem?_map_view found) parentEq
  have within := (List.getElem?_eq_some_iff.mp found).1
  omega

theorem Recorded.refl (pool : TokenPool) : Recorded pool pool := fun _ => .inl rfl

theorem Recorded.trans {middle after : TokenPool} (first : Recorded pool middle)
    (second : Recorded middle after) : Recorded pool after := by
  intro position
  rcases first position with same | ⟨token, found, unsignalled, passed, written⟩
  · rcases second position with same' | ⟨token, found', unsignalled, passed, written⟩
    · exact .inl (same'.trans same)
    · exact .inr ⟨token, same ▸ found', unsignalled, passed, written⟩
  · rcases second position with same' | ⟨token', found', _, _, written'⟩
    · exact .inr ⟨token, found, unsignalled, passed, same'.trans written⟩
    · obtain rfl := Option.some.inj (found'.symm.trans written)
      exact .inr ⟨token, found, unsignalled, passed, written'⟩

/-- Reading a pool never changes the history it keeps. -/
theorem Recorded.map_view {after : TokenPool} (recorded : Recorded pool after) :
    after.map Token.view = pool.map Token.view := by
  apply List.ext_getElem?
  intro position
  rcases recorded position with same | ⟨token, found, unsignalled, _, written⟩
  · simp [same]
  · simp [found, written, Token.view, unsignalled]

theorem Recorded.sound {after : TokenPool} (recorded : Recorded pool after) (sound : Sound pool) :
    Sound after := by
  constructor
  · rw [recorded.map_view]
    exact sound.parentsFirst
  · intro position token found unsignalled
    rcases recorded position with same | ⟨token', found', _, passed, written⟩
    · exact sound.unsignalled position token (same ▸ found) unsignalled
    · obtain rfl := Option.some.inj (found.symm.trans written)
      exact .inr ⟨rfl, passed⟩

theorem Recorded.examined {after : TokenPool} (recorded : Recorded pool after) {position : Nat}
    (examined : Examined pool position) : Examined after position := by
  obtain ⟨token, found, recordedHere⟩ := examined
  rcases recorded position with same | ⟨token', found', _, _, written⟩
  · exact ⟨token, same.trans found, recordedHere⟩
  · exact ⟨_, written, fun _ _ => rfl⟩

/-- Recording a passed deadline is a reading's change. -/
theorem recorded_deadline {position : Nat} {token : Token} (found : pool[position]? = some token)
    (unsignalled : token.signalled = false) (passed : token.deadline = .passed) :
    Recorded pool (pool.modify position fun token => { token with reason := "deadline exceeded" }) := by
  intro other
  by_cases same : position = other
  · subst same
    exact .inr ⟨token, found, unsignalled, passed, by simp [found]⟩
  · exact .inl (List.getElem?_modify_ne _ _ same)

/-! ### Reading whether a token is cancelled -/

theorem readCancelled_recorded (pool : TokenPool) (position fuel : Nat) :
    Recorded pool (pool.readCancelled position fuel).2 := by
  fun_induction readCancelled pool position fuel with
  | case1 => exact Recorded.refl pool
  | case2 => exact Recorded.refl pool
  | case3 => exact Recorded.refl pool
  | case4 position fuel token found unsignalled passed =>
    exact recorded_deadline found (by simpa using unsignalled) passed
  | case5 position fuel token found _ _ parent parentEq parentRecorded => exact parentRecorded
  | case6 => exact Recorded.refl pool

theorem readCancelled_of_missing {position : Nat} (missing : pool[position]? = none) (fuel : Nat) :
    pool.readCancelled position fuel = (false, pool) := by
  cases fuel <;> simp [readCancelled, missing]

/-- With fuel beyond the position, reading whether a token of a sound pool is cancelled
answers by the history: the walk up the parents follows `Cancelled`. -/
theorem readCancelled_eq_true_iff (sound : Sound pool) {position fuel : Nat}
    (enough : position < fuel) :
    (pool.readCancelled position fuel).1 = true ↔ Cancelled (pool.map Token.view) position := by
  fun_induction readCancelled pool position fuel with
  | case1 => omega
  | case2 position fuel missing =>
    simp only [Bool.false_eq_true, false_iff]
    intro cancelled
    obtain ⟨token, found⟩ := cancelled.exists_token
    simp [missing] at found
  | case3 position fuel token found signalled =>
    simp only [true_iff]
    exact (cancelled_iff (getElem?_map_view found)).mpr (.inl (by simp [signalled]))
  | case4 position fuel token found _ passed =>
    simp only [true_iff]
    exact .byDeadline (getElem?_map_view found) passed
  | case5 position fuel token found unsignalled notPassed parent parentEq parentIff =>
    have before := (sound.parent_within found parentEq).1
    rw [parentIff (by omega), cancelled_iff (getElem?_map_view found)]
    simp [unsignalled, notPassed, parentEq]
  | case6 position fuel token found unsignalled notPassed noParent =>
    rw [cancelled_iff (getElem?_map_view found)]
    simp [unsignalled, notPassed, noParent]

/-- Reading whether a token is cancelled leaves it examined. -/
theorem readCancelled_examined {position fuel : Nat} (within : position < pool.length)
    (positive : 0 < fuel) : Examined (pool.readCancelled position fuel).2 position := by
  obtain ⟨token, found⟩ : ∃ token, pool[position]? = some token :=
    ⟨_, List.getElem?_eq_getElem within⟩
  obtain ⟨fuel, rfl⟩ : ∃ rest, fuel = rest + 1 := ⟨fuel - 1, by omega⟩
  by_cases waiting : token.signalled = false ∧ token.deadline = .passed
  · -- the reading records the passed deadline right here
    have reads : pool.readCancelled position (fuel + 1) =
        (true, pool.modify position fun token => { token with reason := "deadline exceeded" }) := by
      simp [readCancelled, found, waiting.1, waiting.2]
    rw [reads]
    exact ⟨{ token with reason := "deadline exceeded" }, by simp [found], fun _ _ => rfl⟩
  · -- nothing to record: the token is examined already, and readings keep that
    refine (readCancelled_recorded pool position (fuel + 1)).examined ⟨token, found, ?_⟩
    intro unsignalled passed
    exact absurd ⟨unsignalled, passed⟩ waiting

theorem cancelled_eq_true_iff (sound : Sound pool) (position : Nat) :
    (pool.cancelled position).1 = true ↔ Cancelled (pool.map Token.view) position := by
  unfold cancelled
  by_cases within : position < pool.length
  · exact readCancelled_eq_true_iff sound within
  · rw [readCancelled_of_missing (List.getElem?_eq_none (by omega))]
    simp only [Bool.false_eq_true, false_iff]
    intro cancelled
    have := cancelled.lt_length
    simp only [List.length_map] at this
    omega

theorem cancelled_recorded (pool : TokenPool) (position : Nat) :
    Recorded pool (pool.cancelled position).2 :=
  readCancelled_recorded pool position pool.length

theorem cancelled_examined {position : Nat} (within : position < pool.length) :
    Examined (pool.cancelled position).2 position :=
  readCancelled_examined within (by omega)

/-! ### Reading a reason -/

theorem readReason_recorded (pool : TokenPool) (position fuel : Nat) :
    Recorded pool (pool.readReason position fuel).2 := by
  fun_induction readReason pool position fuel with
  | case1 => exact Recorded.refl _
  | case2 => exact Recorded.refl _
  | case3 => exact Recorded.refl _
  | case4 pool position fuel token found parent parentEq unsignalled read readsParent
      parentRecorded =>
    have first := readCancelled_recorded pool parent pool.length
    rw [readsParent] at first
    exact first.trans parentRecorded
  | case5 pool position fuel token found parent parentEq unsignalled parentCancelled read
      readsParent _ =>
    have first := readCancelled_recorded pool parent pool.length
    rwa [readsParent] at first
  | case6 => exact Recorded.refl _

/-- A token cancelled by hand reports its own reason. -/
theorem reported_of_signalled {position : Nat} {token : Token} {reason : String}
    (found : pool[position]? = some token) (signalled : token.signalled = true)
    (reports : Reports (pool.map Token.view) position reason) : reason = token.reason :=
  reports.unique (.byHand (getElem?_map_view found) (by simp [Token.view, signalled]))

/-- In the pool, a token that only its own passed deadline cancels is not cancelled by hand and
its deadline passed. -/
theorem onlyOwnDeadline_token {position : Nat} {token : Token}
    (only : OnlyOwnDeadline (pool.map Token.view) position) (found : pool[position]? = some token) :
    token.signalled = false ∧ token.deadline = .passed := by
  obtain ⟨issued, viewed, noHand, passed, _⟩ := only
  obtain rfl := Option.some.inj ((getElem?_map_view found).symm.trans viewed)
  exact ⟨by simpa using noHand, passed⟩

/-- An examined token that only its own passed deadline cancels carries the reason it
reports. -/
theorem Examined.reason_eq {position : Nat} {token : Token} {reason : String}
    (examined : Examined pool position) (found : pool[position]? = some token)
    (only : OnlyOwnDeadline (pool.map Token.view) position)
    (reports : Reports (pool.map Token.view) position reason) : token.reason = reason := by
  obtain ⟨token', found', recorded⟩ := examined
  obtain rfl := Option.some.inj (found.symm.trans found')
  obtain ⟨unsignalled, passed⟩ := onlyOwnDeadline_token only found
  rw [recorded unsignalled passed, only.reported reports]

/-- With fuel beyond the position, a sound pool reads the reason a token reports, except for a
token that only its own passed deadline cancels: that one gives the reason it carries. -/
theorem readReason_eq (sound : Sound pool) {position fuel : Nat} (enough : position < fuel)
    {reason : String} (reports : Reports (pool.map Token.view) position reason) :
    (pool.readReason position fuel).1 = reason ∨
      OnlyOwnDeadline (pool.map Token.view) position ∧
        ∃ token, pool[position]? = some token ∧ (pool.readReason position fuel).1 = token.reason := by
  fun_induction readReason pool position fuel generalizing reason with
  | case1 => omega
  | case2 pool position fuel missing =>
    obtain ⟨token, found⟩ := reports.cancelled.exists_token
    simp [missing] at found
  | case3 pool position fuel token found parent parentEq signalled =>
    exact .inl (reported_of_signalled found signalled reports).symm
  | case4 pool position fuel token found parent parentEq unsignalled read readsParent
      parentAnswer =>
    have viewed := getElem?_map_view found
    obtain ⟨before, within⟩ := sound.parent_within found parentEq
    have parentRecorded := readCancelled_recorded pool parent pool.length
    have parentExamined := readCancelled_examined within (by omega : 0 < pool.length)
    have parentCancelled := (readCancelled_eq_true_iff sound within).mp
    rw [readsParent] at parentRecorded parentExamined parentCancelled
    have parentReports := reports.of_cancelled_parent viewed (by simpa using unsignalled)
      parentEq (parentCancelled rfl)
    rw [← parentRecorded.map_view] at parentReports
    rcases parentAnswer (parentRecorded.sound sound) (by omega) parentReports with
      same | ⟨only, parentToken, foundParent, answer⟩
    · exact .inl same
    · exact .inl (answer.trans (parentExamined.reason_eq foundParent only parentReports))
  | case5 pool position fuel token found parent parentEq unsignalled parentCancelled read
      readsParent notCancelled =>
    have viewed := getElem?_map_view found
    have within := (sound.parent_within found parentEq).2
    have parentIff := readCancelled_eq_true_iff sound within
    rw [readsParent] at parentIff
    have noParent : ∀ other, token.view.parent = some other →
        ¬ Cancelled (pool.map Token.view) other := by
      intro other otherEq
      obtain rfl := Option.some.inj (parentEq.symm.trans otherEq)
      exact fun cancelled => notCancelled (parentIff.mpr cancelled)
    have only := reports.onlyOwnDeadline viewed (by simpa using unsignalled) noParent
    exact .inr ⟨only.1, token, found, rfl⟩
  | case6 pool position fuel token found noParent =>
    cases signalled : token.signalled with
    | true => exact .inl (reported_of_signalled found signalled reports).symm
    | false =>
      have viewed := getElem?_map_view found
      have only := reports.onlyOwnDeadline viewed (by simpa using signalled)
        (by simp [noParent])
      exact .inr ⟨only.1, token, found, rfl⟩

theorem reason_of_examined (sound : Sound pool) {position : Nat} (examined : Examined pool position)
    {reason : String} (reports : Reports (pool.map Token.view) position reason) :
    (pool.reason position).1 = reason := by
  have within : position < pool.length := by simpa using reports.cancelled.lt_length
  rcases readReason_eq sound within reports with same | ⟨only, token, found, answer⟩
  · exact same
  · exact answer.trans (examined.reason_eq found only reports)

/-- A check reads whether the token is cancelled and, when it is, its reason. -/
theorem check_eq (pool : TokenPool) (position : Nat) :
    pool.check position =
      if (pool.cancelled position).1 then
        (.error (.cancelled ((pool.cancelled position).2.reason position).1),
          ((pool.cancelled position).2.reason position).2)
      else (.ok (), (pool.cancelled position).2) := by
  unfold check
  rfl

theorem check_eq_error_iff (sound : Sound pool) (position : Nat) (failure : Failure) :
    (pool.check position).1 = .error failure ↔
      ∃ reason, Reports (pool.map Token.view) position reason ∧ failure = .cancelled reason := by
  have recorded := cancelled_recorded pool position
  rw [check_eq]
  split
  case isTrue stopped =>
    have cancelled := (cancelled_eq_true_iff sound position).mp stopped
    have within : position < pool.length := by simpa using cancelled.lt_length
    obtain ⟨reason, reports⟩ := cancelled.exists_reports sound.parentsFirst
    have given := reason_of_examined (recorded.sound sound) (cancelled_examined within)
      (recorded.map_view ▸ reports)
    simp only [given, Except.error.injEq]
    constructor
    · rintro rfl
      exact ⟨reason, reports, rfl⟩
    · rintro ⟨other, otherReports, rfl⟩
      rw [otherReports.unique reports]
  case isFalse running =>
    simp only [reduceCtorEq, false_iff, not_exists, not_and]
    intro reason reports
    exact absurd ((cancelled_eq_true_iff sound position).mpr reports.cancelled) running

theorem check_recorded (pool : TokenPool) (position : Nat) :
    Recorded pool (pool.check position).2 := by
  have recorded := cancelled_recorded pool position
  rw [check_eq]
  split
  · exact recorded.trans (readReason_recorded _ position _)
  · exact recorded

/-! ### Which tokens a reading looks at -/

theorem readCancelled_follows {position parent : Nat} {token : Token}
    (found : pool[position]? = some token) (unsignalled : token.signalled = false)
    (notPassed : token.deadline ≠ .passed) (parentEq : token.parent = some parent) (fuel : Nat) :
    pool.readCancelled position (fuel + 1) = pool.readCancelled parent fuel := by
  simp [readCancelled, found, unsignalled, notPassed, parentEq]

theorem readReason_of_missing {position : Nat} (missing : pool[position]? = none) (fuel : Nat) :
    pool.readReason position fuel = (defaultReason, pool) := by
  cases fuel <;> simp [readReason, missing]

/-- Reading whether a token is cancelled examines every token the evaluation looks at. -/
theorem readCancelled_examines (sound : Sound pool) {position target fuel : Nat}
    (reaches : Reaches (pool.map Token.view) position target) (enough : position < fuel) :
    Examined (pool.readCancelled position fuel).2 target := by
  induction reaches generalizing fuel with
  | @here position token found =>
    have within : position < pool.length := by simpa using (List.getElem?_eq_some_iff.mp found).1
    exact readCancelled_examined within (by omega)
  | @up position parent target issued found noHand notPassed parentEq _ parentExamines =>
    obtain ⟨token, foundToken, rfl⟩ : ∃ token, pool[position]? = some token ∧ token.view = issued := by
      simpa using found
    have before := (sound.parent_within foundToken parentEq).1
    obtain ⟨fuel, rfl⟩ : ∃ rest, fuel = rest + 1 := ⟨fuel - 1, by omega⟩
    rw [readCancelled_follows foundToken (by simpa using noHand) notPassed parentEq]
    exact parentExamines (by omega)

/-- Reading whether a token is cancelled changes no token the evaluation does not look at. -/
theorem readCancelled_untouched (pool : TokenPool) {position target : Nat} (fuel : Nat)
    (unreached : ¬ Reaches (pool.map Token.view) position target) :
    (pool.readCancelled position fuel).2[target]? = pool[target]? := by
  fun_induction readCancelled pool position fuel with
  | case1 => rfl
  | case2 => rfl
  | case3 => rfl
  | case4 position fuel token found _ _ =>
    have differ : position ≠ target := by
      rintro rfl
      exact unreached (.here (getElem?_map_view found))
    exact List.getElem?_modify_ne _ _ differ
  | case5 position fuel token found unsignalled notPassed parent parentEq parentUntouched =>
    apply parentUntouched
    intro reaches
    exact unreached (.up (getElem?_map_view found) (by simpa using unsignalled) notPassed parentEq
      reaches)
  | case6 => rfl

/-- Reading a token's reason examines every token the evaluation looks at. -/
theorem readReason_examines (sound : Sound pool) {position target fuel : Nat}
    (enough : position < fuel) (reaches : ReasonReaches (pool.map Token.view) position target) :
    Examined (pool.readReason position fuel).2 target := by
  fun_induction readReason pool position fuel with
  | case1 => omega
  | case2 pool position fuel missing =>
    obtain ⟨token, found⟩ := reaches.exists_start
    simp [missing] at found
  | case3 pool position fuel token found parent parentEq signalled =>
    cases reaches with
    | parent found' noHand _ _ =>
      obtain rfl := Option.some.inj ((getElem?_map_view found).symm.trans found')
      simp [signalled] at noHand
    | parentReason found' noHand _ _ _ =>
      obtain rfl := Option.some.inj ((getElem?_map_view found).symm.trans found')
      simp [signalled] at noHand
  | case4 pool position fuel token found parent parentEq unsignalled read readsParent
      parentExamines =>
    obtain ⟨before, within⟩ := sound.parent_within found parentEq
    have parentRecorded := readCancelled_recorded pool parent pool.length
    rw [readsParent] at parentRecorded
    cases reaches with
    | parent found' _ parentEq' reachesTarget =>
      obtain rfl := Option.some.inj ((getElem?_map_view found).symm.trans found')
      obtain rfl := Option.some.inj (parentEq.symm.trans parentEq')
      have examined := readCancelled_examines sound reachesTarget within
      rw [readsParent] at examined
      exact (readReason_recorded read parent fuel).examined examined
    | parentReason found' _ parentEq' _ reasonReaches =>
      obtain rfl := Option.some.inj ((getElem?_map_view found).symm.trans found')
      obtain rfl := Option.some.inj (parentEq.symm.trans parentEq')
      exact parentExamines (parentRecorded.sound sound) (by omega)
        (parentRecorded.map_view ▸ reasonReaches)
  | case5 pool position fuel token found parent parentEq unsignalled parentCancelled read
      readsParent notCancelled =>
    have within := (sound.parent_within found parentEq).2
    cases reaches with
    | parent found' _ parentEq' reachesTarget =>
      obtain rfl := Option.some.inj ((getElem?_map_view found).symm.trans found')
      obtain rfl := Option.some.inj (parentEq.symm.trans parentEq')
      have examined := readCancelled_examines sound reachesTarget within
      rwa [readsParent] at examined
    | parentReason found' _ parentEq' cancelled _ =>
      obtain rfl := Option.some.inj ((getElem?_map_view found).symm.trans found')
      obtain rfl := Option.some.inj (parentEq.symm.trans parentEq')
      have answer := (readCancelled_eq_true_iff sound within).mpr cancelled
      rw [readsParent] at answer
      exact absurd answer notCancelled
  | case6 pool position fuel token found noParent =>
    cases reaches with
    | parent found' _ parentEq _ =>
      obtain rfl := Option.some.inj ((getElem?_map_view found).symm.trans found')
      simp [noParent] at parentEq
    | parentReason found' _ parentEq _ _ =>
      obtain rfl := Option.some.inj ((getElem?_map_view found).symm.trans found')
      simp [noParent] at parentEq

/-- Reading a token's reason changes no token the evaluation does not look at. -/
theorem readReason_untouched (sound : Sound pool) {position target fuel : Nat}
    (enough : position < fuel) (unreached : ¬ ReasonReaches (pool.map Token.view) position target) :
    (pool.readReason position fuel).2[target]? = pool[target]? := by
  fun_induction readReason pool position fuel with
  | case1 => rfl
  | case2 => rfl
  | case3 => rfl
  | case4 pool position fuel token found parent parentEq unsignalled read readsParent
      parentUntouched =>
    obtain ⟨before, within⟩ := sound.parent_within found parentEq
    have viewed := getElem?_map_view found
    have noHand : token.view.lastCancel = none := by simpa using unsignalled
    have parentRecorded := readCancelled_recorded pool parent pool.length
    have readUntouched := readCancelled_untouched pool pool.length
      fun reaches => unreached (.parent viewed noHand parentEq reaches)
    have parentCancelled := (readCancelled_eq_true_iff sound within).mp
    rw [readsParent] at parentRecorded readUntouched parentCancelled
    rw [← readUntouched]
    refine parentUntouched (parentRecorded.sound sound) (by omega) ?_
    rw [parentRecorded.map_view]
    exact fun reasonReaches =>
      unreached (.parentReason viewed noHand parentEq (parentCancelled rfl) reasonReaches)
  | case5 pool position fuel token found parent parentEq unsignalled parentCancelled read
      readsParent _ =>
    have readUntouched := readCancelled_untouched pool pool.length
      fun reaches => unreached (.parent (getElem?_map_view found) (by simpa using unsignalled)
        parentEq reaches)
    rwa [readsParent] at readUntouched
  | case6 => rfl

/-- Reading the reason of a token that only its own passed deadline cancels gives the reason
the token carries. -/
theorem readReason_of_onlyOwnDeadline (sound : Sound pool) {position fuel : Nat}
    (enough : position < fuel) (only : OnlyOwnDeadline (pool.map Token.view) position) :
    ∃ token, pool[position]? = some token ∧ (pool.readReason position fuel).1 = token.reason := by
  fun_induction readReason pool position fuel with
  | case1 => omega
  | case2 pool position fuel missing =>
    obtain ⟨issued, viewed, -⟩ := only
    simp [missing] at viewed
  | case3 pool position fuel token found parent parentEq signalled =>
    simp [(onlyOwnDeadline_token only found).1] at signalled
  | case4 pool position fuel token found parent parentEq unsignalled read readsParent _ =>
    -- a cancelled parent would be a second cause
    have within := (sound.parent_within found parentEq).2
    have parentCancelled := (readCancelled_eq_true_iff sound within).mp
    rw [readsParent] at parentCancelled
    obtain ⟨issued, viewed, -, -, noParent⟩ := only
    obtain rfl := Option.some.inj ((getElem?_map_view found).symm.trans viewed)
    exact absurd (parentCancelled rfl) (noParent parent parentEq)
  | case5 pool position fuel token found => exact ⟨token, found, rfl⟩
  | case6 pool position fuel token found => exact ⟨token, found, rfl⟩

theorem cancelled_examines (sound : Sound pool) {position target : Nat}
    (reaches : Reaches (pool.map Token.view) position target) :
    Examined (pool.cancelled position).2 target := by
  obtain ⟨token, found⟩ := reaches.exists_start
  exact readCancelled_examines sound reaches (by simpa using (List.getElem?_eq_some_iff.mp found).1)

theorem cancelled_untouched (pool : TokenPool) {position target : Nat}
    (unreached : ¬ Reaches (pool.map Token.view) position target) :
    (pool.cancelled position).2[target]? = pool[target]? :=
  readCancelled_untouched pool pool.length unreached

theorem reason_examines (sound : Sound pool) {position target : Nat}
    (reaches : ReasonReaches (pool.map Token.view) position target) :
    Examined (pool.reason position).2 target := by
  obtain ⟨token, found⟩ := reaches.exists_start
  exact readReason_examines sound (by simpa using (List.getElem?_eq_some_iff.mp found).1) reaches

theorem reason_untouched (sound : Sound pool) {position target : Nat}
    (unreached : ¬ ReasonReaches (pool.map Token.view) position target) :
    (pool.reason position).2[target]? = pool[target]? := by
  unfold reason
  by_cases within : position < pool.length
  · exact readReason_untouched sound within unreached
  · rw [readReason_of_missing (List.getElem?_eq_none (by omega))]

theorem check_examines (sound : Sound pool) {position target : Nat}
    (examines : (TokenOp.check position).Examines (pool.map Token.view) target) :
    Examined (pool.check position).2 target := by
  have recorded := cancelled_recorded pool position
  rw [check_eq]
  rcases examines with reaches | ⟨cancelled, reasonReaches⟩
  · have examined := cancelled_examines sound reaches
    split
    · exact (readReason_recorded _ position _).examined examined
    · exact examined
  · rw [if_pos ((cancelled_eq_true_iff sound position).mpr cancelled)]
    exact reason_examines (recorded.sound sound) (recorded.map_view ▸ reasonReaches)

theorem check_untouched (sound : Sound pool) {position target : Nat}
    (unexamined : ¬ (TokenOp.check position).Examines (pool.map Token.view) target) :
    (pool.check position).2[target]? = pool[target]? := by
  have recorded := cancelled_recorded pool position
  have readUntouched := cancelled_untouched pool fun reaches => unexamined (.inl reaches)
  rw [check_eq]
  split
  case isTrue stopped =>
    have cancelled := (cancelled_eq_true_iff sound position).mp stopped
    rw [reason_untouched (recorded.sound sound), readUntouched]
    rw [recorded.map_view]
    exact fun reasonReaches => unexamined (.inr ⟨cancelled, reasonReaches⟩)
  case isFalse => exact readUntouched

/-! ### Creating and cancelling tokens -/

theorem map_view_add (pool : TokenPool) (deadline : Deadline) (parent : Option Nat) :
    (pool.add (Token.fresh deadline parent)).1.map Token.view =
      pool.map Token.view ++ [⟨deadline, parent, none⟩] := by
  simp [add, Token.fresh, Token.view]

theorem map_view_cancel (pool : TokenPool) (target : Nat) (reason : String) :
    (pool.cancel target reason).map Token.view =
      (pool.map Token.view).modify target fun token => { token with lastCancel := some reason } := by
  apply List.ext_getElem?
  intro position
  simp only [cancel, List.getElem?_map, List.getElem?_modify]
  split <;> cases pool[position]? <;> simp [Token.view]

theorem Sound.add (sound : Sound pool) {deadline : Deadline} {parent : Option Nat}
    (fits : ∀ position ∈ parent, position < pool.length) :
    Sound (pool.add (Token.fresh deadline parent)).1 := by
  constructor
  · rw [map_view_add]
    intro position token parent' found parentEq
    rcases getElem?_append_singleton_eq_some found with old | ⟨rfl, rfl⟩
    · exact sound.parentsFirst position token parent' old parentEq
    · -- the new token's parent is one of the tokens before it
      simpa using fits parent' parentEq
  · intro position token found unsignalled
    rcases getElem?_append_singleton_eq_some found with old | ⟨-, rfl⟩
    · exact sound.unsignalled position token old unsignalled
    · exact .inl rfl

theorem Sound.cancel (sound : Sound pool) (target : Nat) (reason : String) :
    Sound (pool.cancel target reason) := by
  constructor
  · rw [map_view_cancel]
    intro position token parent found parentEq
    obtain ⟨original, foundOriginal, rfl⟩ := exists_of_getElem?_modify found
    refine sound.parentsFirst position original parent foundOriginal ?_
    split at parentEq <;> exact parentEq
  · intro position token found unsignalled
    obtain ⟨original, foundOriginal, rfl⟩ := exists_of_getElem?_modify found
    by_cases same : target = position
    · simp [same] at unsignalled
    · simp only [same, if_false] at unsignalled ⊢
      exact sound.unsignalled position original foundOriginal unsignalled

theorem Examined.add {position : Nat} (examined : Examined pool position) (token : Token) :
    Examined (pool.add token).1 position := by
  obtain ⟨found, foundHere, recorded⟩ := examined
  exact ⟨found, getElem?_append_of_eq_some _ foundHere, recorded⟩

theorem Examined.cancel {position : Nat} (examined : Examined pool position) (target : Nat)
    (reason : String) : Examined (pool.cancel target reason) position := by
  obtain ⟨token, found, recorded⟩ := examined
  refine ⟨_, getElem?_modify_of_eq_some _ found, ?_⟩
  split
  · intro unsignalled
    cases unsignalled
  · exact recorded

end TokenPool

/-! ## Every valid run -/

open TokenPool

/-- What every valid run keeps: a sound pool that keeps the run's history, in which every token
an evaluation of the run looked at is examined, and every token no evaluation looked at that
is not cancelled by hand still carries the default reason. -/
structure RunInvariant (ops : List TokenOp) : Prop where
  sound : Sound (runTokens ops)
  view_eq : (runTokens ops).map Token.view = issued ops
  examined : ∀ position, ExaminedIn ops position → Examined (runTokens ops) position
  unexamined : ∀ position (token : Token), ¬ ExaminedIn ops position →
    (runTokens ops)[position]? = some token → token.signalled = false →
      token.reason = defaultReason

theorem RunInvariant.nil : RunInvariant [] where
  sound := ⟨by simp [ParentsFirst], by simp⟩
  view_eq := rfl
  examined position examinedIn := absurd examinedIn (not_examinedIn_nil position)
  unexamined := by simp

/-- A reading keeps the invariant when it only records passed deadlines, examines the tokens it
looks at and leaves every other token as it was. -/
theorem RunInvariant.read {ops : List TokenOp} {op : TokenOp} (invariant : RunInvariant ops)
    (recorded : Recorded (runTokens ops) (op.apply (runTokens ops)))
    (unchanged : op.issue (issued ops) = issued ops)
    (examines : ∀ position, op.Examines (issued ops) position →
      Examined (op.apply (runTokens ops)) position)
    (untouched : ∀ position, ¬ op.Examines (issued ops) position →
      (op.apply (runTokens ops))[position]? = (runTokens ops)[position]?) :
    RunInvariant (ops ++ [op]) where
  sound := by simpa using recorded.sound invariant.sound
  view_eq := by simpa [unchanged] using recorded.map_view.trans invariant.view_eq
  examined := by
    intro position examinedIn
    rw [runTokens_snoc]
    rcases (examinedIn_snoc ops op position).mp examinedIn with earlier | now
    · exact recorded.examined (invariant.examined position earlier)
    · exact examines position now
  unexamined := by
    intro position token unexamined found unsignalled
    rw [examinedIn_snoc, not_or] at unexamined
    rw [runTokens_snoc, untouched position unexamined.2] at found
    exact invariant.unexamined position token unexamined.1 found unsignalled

theorem RunInvariant.length_eq {ops : List TokenOp} (invariant : RunInvariant ops) :
    (runTokens ops).length = (issued ops).length := by
  rw [← invariant.view_eq, List.length_map]

/-- Creating or cancelling a token examines none. -/
theorem examinedIn_snoc_of_writing {ops : List TokenOp} {op : TokenOp} {position : Nat}
    (writing : ∀ tokens, ¬ op.Examines tokens position) :
    ExaminedIn (ops ++ [op]) position ↔ ExaminedIn ops position := by
  rw [examinedIn_snoc]
  exact or_iff_left (writing _)

/-- Every operation that fits keeps the invariant. -/
theorem RunInvariant.snoc {ops : List TokenOp} {op : TokenOp} (invariant : RunInvariant ops)
    (fits : op.Fits (issued ops).length) : RunInvariant (ops ++ [op]) := by
  have sized := invariant.length_eq
  cases op with
  | create deadline parent =>
    have same := fun position =>
      @examinedIn_snoc_of_writing ops (.create deadline parent) position fun _ => id
    refine ⟨?_, ?_, ?_, ?_⟩
    · rw [runTokens_snoc]
      exact invariant.sound.add (fun position member => sized ▸ fits position member)
    · simp [TokenOp.apply, TokenOp.issue, map_view_add, invariant.view_eq]
    · intro position examinedIn
      rw [runTokens_snoc]
      exact (invariant.examined position ((same position).mp examinedIn)).add _
    · intro position token unexamined found unsignalled
      rw [same] at unexamined
      rw [runTokens_snoc] at found
      change ((runTokens ops) ++ [Token.fresh deadline parent])[position]? = some token at found
      rcases getElem?_append_singleton_eq_some found with old | ⟨-, rfl⟩
      · exact invariant.unexamined position token unexamined old unsignalled
      · rfl
  | cancel target reason =>
    have same := fun position =>
      @examinedIn_snoc_of_writing ops (.cancel target reason) position fun _ => id
    refine ⟨?_, ?_, ?_, ?_⟩
    · rw [runTokens_snoc]
      exact invariant.sound.cancel target reason
    · simp [TokenOp.apply, TokenOp.issue, map_view_cancel, invariant.view_eq]
    · intro position examinedIn
      rw [runTokens_snoc]
      exact (invariant.examined position ((same position).mp examinedIn)).cancel target reason
    · intro position token unexamined found unsignalled
      rw [same] at unexamined
      simp only [runTokens_snoc, TokenOp.apply, TokenPool.cancel] at found
      obtain ⟨original, foundOriginal, rfl⟩ := exists_of_getElem?_modify found
      by_cases here : target = position
      · simp [here] at unsignalled
      · simp only [here, if_false] at unsignalled ⊢
        exact invariant.unexamined position original unexamined foundOriginal unsignalled
  | readCancelled target =>
    refine invariant.read (cancelled_recorded _ target) rfl ?_ ?_
    · intro position examines
      rw [← invariant.view_eq] at examines
      exact cancelled_examines invariant.sound examines
    · intro position unexamined
      rw [← invariant.view_eq] at unexamined
      exact cancelled_untouched _ unexamined
  | readReason target =>
    refine invariant.read (readReason_recorded _ target _) rfl ?_ ?_
    · intro position examines
      rw [← invariant.view_eq] at examines
      exact reason_examines invariant.sound examines
    · intro position unexamined
      rw [← invariant.view_eq] at unexamined
      exact reason_untouched invariant.sound unexamined
  | check target =>
    refine invariant.read (check_recorded _ target) rfl ?_ ?_
    · intro position examines
      rw [← invariant.view_eq] at examines
      exact check_examines invariant.sound examines
    · intro position unexamined
      rw [← invariant.view_eq] at unexamined
      exact check_untouched invariant.sound unexamined

theorem ValidRun.invariant {ops : List TokenOp} (valid : ValidRun ops) : RunInvariant ops := by
  induction valid with
  | nil => exact RunInvariant.nil
  | snoc _ fits invariant => exact invariant.snoc fits

theorem RunInvariant.cancelled_iff {ops : List TokenOp} (invariant : RunInvariant ops)
    (position : Nat) :
    ((runTokens ops).cancelled position).1 = true ↔ Cancelled (issued ops) position := by
  rw [← invariant.view_eq]
  exact cancelled_eq_true_iff invariant.sound position

/-- Over every valid run, cancellation is a monotone signal inherited from parents. The pool
reads a token as cancelled exactly when the history cancels it; that reading, once true, stays
true after any further operation; cancelling a token leaves its parent's reading as it was. A
check stops exactly when the token is cancelled, with the reason it reports. Reading a reason
alone gives that reason too, except for a token that only its own passed deadline cancels and
that no evaluation of the run has looked at: that token gives the default reason. -/
theorem tokens_signal_monotonically {ops : List TokenOp} (valid : ValidRun ops) :
    (∀ position,
      ((runTokens ops).cancelled position).1 = true ↔ Cancelled (issued ops) position) ∧
    (∀ op position, op.Fits (issued ops).length →
      ((runTokens ops).cancelled position).1 = true →
      ((runTokens (ops ++ [op])).cancelled position).1 = true) ∧
    (∀ position reason token parent, (issued ops)[position]? = some token →
      token.parent = some parent →
      ((runTokens (ops ++ [.cancel position reason])).cancelled parent).1 =
        ((runTokens ops).cancelled parent).1) ∧
    (∀ position failure, ((runTokens ops).check position).1 = .error failure ↔
      ∃ reason, Reports (issued ops) position reason ∧ failure = .cancelled reason) ∧
    (∀ position reason, Reports (issued ops) position reason →
      ExaminedIn ops position ∨ ¬ OnlyOwnDeadline (issued ops) position →
      ((runTokens ops).reason position).1 = reason) ∧
    (∀ position, OnlyOwnDeadline (issued ops) position → ¬ ExaminedIn ops position →
      ((runTokens ops).reason position).1 = defaultReason) := by
  have invariant := valid.invariant
  have parentsFirst : ParentsFirst (issued ops) :=
    invariant.view_eq ▸ invariant.sound.parentsFirst
  refine ⟨invariant.cancelled_iff, ?stays, ?parentKept, ?check, ?reported, ?unexamined⟩
  case stays =>
    intro op position fits cancelled
    rw [(valid.snoc fits).invariant.cancelled_iff, issued_snoc]
    exact ((invariant.cancelled_iff position).mp cancelled).issue op
  case parentKept =>
    intro position reason token parent found parentEq
    have fits : (TokenOp.cancel position reason).Fits (issued ops).length :=
      (List.getElem?_eq_some_iff.mp found).1
    have before := parentsFirst position token parent found parentEq
    rw [Bool.eq_iff_iff, (valid.snoc fits).invariant.cancelled_iff, invariant.cancelled_iff,
      issued_snoc]
    simp only [TokenOp.issue]
    exact cancelled_iff_of_agree (fun other below => List.getElem?_modify_ne _ _ (by omega))
      parentsFirst before
  case check =>
    intro position failure
    rw [← invariant.view_eq]
    exact check_eq_error_iff invariant.sound position failure
  case reported =>
    intro position reason reports cause
    rw [← invariant.view_eq] at reports cause
    have within : position < (runTokens ops).length := by
      simpa using reports.cancelled.lt_length
    rcases readReason_eq invariant.sound within reports with same | ⟨only, token, found, answer⟩
    · exact same
    · rcases cause with examinedIn | notOnly
      · exact answer.trans ((invariant.examined position examinedIn).reason_eq found only reports)
      · exact absurd only notOnly
  case unexamined =>
    intro position only unexamined
    rw [← invariant.view_eq] at only
    have within : position < (runTokens ops).length := by
      obtain ⟨issued, viewed, -⟩ := only
      simpa using (List.getElem?_eq_some_iff.mp viewed).1
    obtain ⟨token, found, answer⟩ := readReason_of_onlyOwnDeadline invariant.sound within only
    exact answer.trans
      (invariant.unexamined position token unexamined found (onlyOwnDeadline_token only found).1)

/-- A token created already expired, read only through its child's cancellation. -/
theorem tokens_signal_through_child_reading :
    ValidRun [.create .passed none, .create .unset (some 0), .readCancelled 1] ∧
    (∀ position,
      ((runTokens [.create .passed none, .create .unset (some 0),
        .readCancelled 1]).cancelled position).1 = true ↔
      Cancelled (issued [.create .passed none, .create .unset (some 0),
        .readCancelled 1]) position) ∧
    (∀ op position, op.Fits (issued [.create .passed none, .create .unset (some 0),
        .readCancelled 1]).length →
      ((runTokens [.create .passed none, .create .unset (some 0),
        .readCancelled 1]).cancelled position).1 = true →
      ((runTokens ([.create .passed none, .create .unset (some 0),
        .readCancelled 1] ++ [op])).cancelled position).1 = true) ∧
    (∀ position reason token parent, (issued [.create .passed none,
        .create .unset (some 0), .readCancelled 1])[position]? = some token →
      token.parent = some parent →
      ((runTokens ([.create .passed none, .create .unset (some 0), .readCancelled 1] ++
        [.cancel position reason])).cancelled parent).1 =
        ((runTokens [.create .passed none, .create .unset (some 0),
          .readCancelled 1]).cancelled parent).1) ∧
    (∀ position failure, ((runTokens [.create .passed none, .create .unset (some 0),
        .readCancelled 1]).check position).1 = .error failure ↔
      ∃ reason, Reports (issued [.create .passed none, .create .unset (some 0),
        .readCancelled 1]) position reason ∧ failure = .cancelled reason) ∧
    (∀ position reason, Reports (issued [.create .passed none, .create .unset (some 0),
        .readCancelled 1]) position reason →
      ExaminedIn [.create .passed none, .create .unset (some 0), .readCancelled 1] position ∨
        ¬ OnlyOwnDeadline (issued [.create .passed none, .create .unset (some 0),
          .readCancelled 1]) position →
      ((runTokens [.create .passed none, .create .unset (some 0),
        .readCancelled 1]).reason position).1 = reason) ∧
    (∀ position, OnlyOwnDeadline (issued [.create .passed none, .create .unset (some 0),
        .readCancelled 1]) position →
      ¬ ExaminedIn [.create .passed none, .create .unset (some 0), .readCancelled 1] position →
      ((runTokens [.create .passed none, .create .unset (some 0),
        .readCancelled 1]).reason position).1 = defaultReason) := by
  have valid : ValidRun [.create .passed none, .create .unset (some 0), .readCancelled 1] :=
    @ValidRun.snoc [.create .passed none, .create .unset (some 0)] (.readCancelled 1)
      (@ValidRun.snoc [.create .passed none] (.create .unset (some 0))
        (@ValidRun.snoc [] (.create .passed none) .nil (by decide)) (by decide))
      (by decide)
  exact ⟨valid, tokens_signal_monotonically valid⟩

/- Reading a reason alone: a token created already expired carries the default reason until an
evaluation of whether it is cancelled, its own or its child's, records its passed deadline. -/
example : ((runTokens [.create .passed none]).reason 0).1 = defaultReason := by rfl

example :
    ((runTokens [.create .passed none, .create .unset (some 0), .readCancelled 1]).reason 0).1 =
      "deadline exceeded" := by
  rfl

end DocIndex

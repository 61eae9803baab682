import DocIndex.Indexing
import DocIndex.Proofs.Document.WellFormed

/-!
# Running indexing steps

`Indexing` threads a store through steps that may fail, and a failed step leaves the store as
the step found it. One lemma per kind of step says what running it does before the steps that
follow: a checked step passes its value on or stops, and a changing step passes its value on
with the changed store or stops, in both cases with the store unchanged. A job reads a
directory and puts the index it made: it either stops at its checkpoint, its reader or its put
with the store unchanged, or stores the index.
-/

namespace DocIndex

open DocIndex.Document DocIndex.Search

namespace Indexing

variable {α β : Type}

theorem run_bind_ok {m : Indexing α} {rest : α → Indexing β} {store next : Store} {value : α}
    (ran : (m.run).run store = (.ok value, next)) :
    ((m >>= rest).run).run store = ((rest value).run).run next := by
  show (StateT.bind m (ExceptT.bindCont rest)).run store = _
  simp only [StateT.run, StateT.bind] at ran ⊢
  rw [show m store = (.ok value, next) from ran]
  rfl

theorem run_get_bind (rest : Store → Indexing β) (store : Store) :
    (((get : Indexing Store) >>= rest).run).run store = ((rest store).run).run store := rfl

theorem run_lift_ok_bind {step : Except Failure α} {value : α} (found : step = .ok value)
    (rest : α → Indexing β) (store : Store) :
    ((lift step >>= rest).run).run store = ((rest value).run).run store := by
  subst found
  rfl

theorem run_lift_error_bind {step : Except Failure α} {failure : Failure}
    (failed : step = .error failure) (rest : α → Indexing β) (store : Store) :
    ((lift step >>= rest).run).run store = (.error failure, store) := by
  subst failed
  rfl

theorem run_change_ok_bind {step : Store → Except Failure (α × Store)} {store next : Store}
    {value : α} (changed : step store = .ok (value, next)) (rest : α → Indexing β) :
    ((change step >>= rest).run).run store = ((rest value).run).run next := by
  unfold change
  rw [bind_assoc, run_get_bind, bind_assoc, run_lift_ok_bind changed]
  rfl

theorem run_change_error_bind {step : Store → Except Failure (α × Store)} {store : Store}
    {failure : Failure} (failed : step store = .error failure) (rest : α → Indexing β) :
    ((change step >>= rest).run).run store = (.error failure, store) := by
  unfold change
  rw [bind_assoc, run_get_bind, bind_assoc, run_lift_error_bind failed]

end Indexing

/-- A job stops at its checkpoint, its reader or its put with the store as it was, or stores
the index its reader made. -/
theorem Job.run_cases (halt : Halt) (job : Job) (store : Store) :
    (∃ failure, ((job.run halt).run).run store = (.error failure, store) ∧
      (checkpoint halt = .error failure ∨
        checkpoint halt = .ok () ∧ (job.reader.read halt job.root job.node = .error failure ∨
          ∃ index, job.reader.read halt job.root job.node = .ok index ∧
            store.put halt job.project job.language index = .error failure))) ∨
    ∃ index stored, checkpoint halt = .ok () ∧ job.reader.read halt job.root job.node = .ok index ∧
      store.put halt job.project job.language index = .ok stored ∧
      ((job.run halt).run).run store = (.ok index, stored) := by
  unfold Job.run
  cases checking : checkpoint halt with
  | error failure => exact .inl ⟨failure, Indexing.run_lift_error_bind rfl _ _, .inl rfl⟩
  | ok passed =>
    rw [Indexing.run_lift_ok_bind rfl]
    cases reading : job.reader.read halt job.root job.node with
    | error failure =>
      exact .inl ⟨failure, Indexing.run_lift_error_bind rfl _ _, .inr ⟨rfl, .inl rfl⟩⟩
    | ok index =>
      rw [Indexing.run_lift_ok_bind rfl]
      cases putting : store.put halt job.project job.language index with
      | error failure =>
        refine .inl ⟨failure, Indexing.run_change_error_bind ?_ _, .inr ⟨rfl, .inr ⟨index, rfl, putting⟩⟩⟩
        simp [putting, bind, Except.bind]
      | ok stored =>
        refine .inr ⟨index, stored, rfl, rfl, putting, ?_⟩
        rw [Indexing.run_change_ok_bind]
        · rfl
        · simp only [putting, bind, Except.bind, pure, Except.pure]
          rfl

/-- A job fails only as its checkpoint, its reader or its put of what the reader made may. -/
theorem Job.run_failsOnly {allowed : Failure → Prop} {halt : Halt} {job : Job}
    (checked : FailsOnly allowed (checkpoint halt))
    (read : FailsOnly allowed (job.reader.read halt job.root job.node))
    (put : ∀ index, job.reader.read halt job.root job.node = .ok index → ∀ store : Store,
      FailsOnly allowed (store.put halt job.project job.language index))
    (store : Store) :
    FailsOnly allowed (((job.run halt).run).run store).1 := by
  intro failure failed
  rcases Job.run_cases halt job store with
    ⟨early, ran, atCheckpoint | ⟨-, atReader | ⟨index, made, atPut⟩⟩⟩ | ⟨index, stored, -, -, -, ran⟩
  all_goals rw [ran] at failed
  · cases failed
    exact checked _ atCheckpoint
  · cases failed
    exact read _ atReader
  · cases failed
    exact put index made store _ atPut
  · cases failed

end DocIndex

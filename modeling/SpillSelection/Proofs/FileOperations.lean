import SpillSelection.Analysis.Run
import SpillSelection.Proofs.Outcome
import SpillSelection.Proofs.TableText
/-!
# Operations that may fail

An operation that may fail ends with a value or an error and leaves a state behind. The lemmas here
say how operations in a row end, whatever the state is: some files, or a log of what was written.
-/

namespace SpillSelection

variable {σ ε α β : Type}

/-- How an operation that may fail ends from a state, and the state that it leaves. -/
def runFrom (s : σ) (operation : ExceptT ε (StateM σ) α) : Except ε α × σ := operation.run.run s

variable {s s' : σ} {x : ExceptT ε (StateM σ) α} {f : α → ExceptT ε (StateM σ) β}

theorem runFrom_pure (s : σ) (a : α) :
    runFrom s (pure a : ExceptT ε (StateM σ) α) = (.ok a, s) := rfl

theorem runFrom_bind (s : σ) (x : ExceptT ε (StateM σ) α) (f : α → ExceptT ε (StateM σ) β) :
    runFrom s (x >>= f) = match runFrom s x with
      | (.ok a, s) => runFrom s (f a)
      | (.error e, s) => (.error e, s) := by
  unfold runFrom
  rw [ExceptT.run_bind, StateT.run_bind]
  generalize x.run.run s = result
  obtain ⟨_ | _, _⟩ := result <;> rfl

theorem runFrom_bind_ok {a : α} (h : runFrom s x = (.ok a, s'))
    (f : α → ExceptT ε (StateM σ) β) : runFrom s (x >>= f) = runFrom s' (f a) := by
  rw [runFrom_bind, h]

theorem runFrom_bind_error {e : ε} (h : runFrom s x = (.error e, s'))
    (f : α → ExceptT ε (StateM σ) β) : runFrom s (x >>= f) = (.error e, s') := by
  rw [runFrom_bind, h]

theorem runFrom_pure_ok_iff {a b : α} :
    runFrom s (pure a : ExceptT ε (StateM σ) α) = (.ok b, s') ↔ a = b ∧ s = s' := by
  rw [runFrom_pure, Prod.mk.injEq, Except.ok.injEq]

theorem runFrom_bind_ok_iff {b : β} : runFrom s (x >>= f) = (.ok b, s') ↔
    ∃ a s₁, runFrom s x = (.ok a, s₁) ∧ runFrom s₁ (f a) = (.ok b, s') := by
  rw [runFrom_bind]
  cases runFrom s x with
  | mk result s₁ => cases result <;> simp

theorem runFrom_orFail (s : σ) (cause : ε → AnalysisError) (operation : StateM σ (Except ε α)) :
    runFrom s (Analysis.orFail cause operation) =
      ((operation.run s).1.mapError cause, (operation.run s).2) := rfl

theorem runFrom_orFail_ok_iff {cause : ε → AnalysisError} {operation : StateM σ (Except ε α)}
    {a : α} : runFrom s (Analysis.orFail cause operation) = (.ok a, s') ↔
      operation.run s = (.ok a, s') := by
  rw [runFrom_orFail, Prod.ext_iff, Prod.ext_iff, ok_mapError_iff]

theorem run_readText {files : FileAccess (StateM σ)} {path text : String}
    (h : (files.read path).run s = (.ok (Text.utf8 text), s')) :
    (files.readText path).run s = (.ok text, s') := by
  rw [FileAccess.readText, StateT.run_bind, h]
  simp only [bind, Text.ofUtf8?_utf8]
  rfl

/-- Filling tables only opens the records. -/
theorem run_fillTables (files : FileAccess (StateM σ)) (s : CompiledSample) (state : σ) :
    (Analysis.fillTables files s).run state =
      (((Analysis.openRecords files s.sample.path).run state).1 >>= s.process,
        ((Analysis.openRecords files s.sample.path).run state).2) := rfl

end SpillSelection

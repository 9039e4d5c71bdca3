import ScdtServer.Core.TaskPool

/-!
# One program on its own

`execute` runs a program to its end with nothing in between: each call is
answered as the oracle says, if the shared state admits that answer.  A program
that panics ends without a value.  The lemmas take such an execution apart, one
for each way to build a program.
-/

namespace ScdtServer.Sequential

open ScdtServer.Interaction ScdtServer.Interaction.Program
open ScdtServer.TaskPool

variable {S : Signature} {Shared Choice A B : Type}

/-- The value a program ends with, if it does not panic, and the shared state it
leaves.  Spawning and joining is beyond a program on its own. -/
def execute (exec : Exec S Shared Choice) (origin : ℕ) (oracle : Oracle S Choice) :
    Program S A → Shared → Option (Option A × Shared)
  | .ret value, shared => some (some value, shared)
  | .panic, shared => some (none, shared)
  | .call request next, shared =>
      match oracle request with
      | some (answer, choice) =>
          match exec shared origin request answer choice with
          | some shared' => execute exec origin oracle (next answer) shared'
          | none => none
      | none => none
  | .spawn _ _ _, _ => none
  | .join _ _, _ => none

/-- What the oracle answers to a call. -/
def said (oracle : Oracle S Choice) (request : S.Call) : Option (S.Answer request) :=
  (oracle request).map Prod.fst

variable {exec : Exec S Shared Choice} {origin : ℕ} {oracle : Oracle S Choice}
variable {shared last : Shared}

theorem execute_ret {value : A} {outcome : Option A}
    (hexecute : execute exec origin oracle (.ret value : Program S A) shared =
      some (outcome, last)) : outcome = some value ∧ last = shared := by
  cases hexecute
  exact ⟨rfl, rfl⟩

theorem execute_panic {outcome : Option A}
    (hexecute : execute exec origin oracle (.panic : Program S A) shared =
      some (outcome, last)) : outcome = none ∧ last = shared := by
  cases hexecute
  exact ⟨rfl, rfl⟩

theorem execute_call {request : S.Call} {rest : S.Answer request → Program S A}
    {outcome : Option A}
    (hexecute : execute exec origin oracle (.call request .ret >>= rest) shared =
      some (outcome, last)) :
    ∃ answer choice middle, said oracle request = some answer ∧
      exec shared origin request answer choice = some middle ∧
        execute exec origin oracle (rest answer) middle = some (outcome, last) := by
  rw [call_bind, execute] at hexecute
  split at hexecute
  · rename_i answer choice horacle
    split at hexecute
    · rename_i middle hexec
      exact ⟨answer, choice, middle, by rw [said, horacle, Option.map_some], hexec, hexecute⟩
    · cases hexecute
  · cases hexecute

theorem execute_assert {condition : Bool} {rest : Unit → Program S A} {outcome : Option A}
    (hexecute : execute exec origin oracle (assert condition >>= rest) shared =
      some (outcome, last)) :
    (condition = false ∧ outcome = none ∧ last = shared) ∨
      (condition = true ∧ execute exec origin oracle (rest ()) shared =
        some (outcome, last)) := by
  cases condition with
  | true => exact .inr ⟨rfl, hexecute⟩
  | false => exact .inl ⟨rfl, execute_panic hexecute⟩

theorem execute_unwrap {value : Option A} {rest : A → Program S B} {outcome : Option B}
    (hexecute : execute exec origin oracle (unwrap value >>= rest) shared =
      some (outcome, last)) :
    (value = none ∧ outcome = none ∧ last = shared) ∨
      ∃ inner, value = some inner ∧ execute exec origin oracle (rest inner) shared =
        some (outcome, last) := by
  cases value with
  | some inner => exact .inr ⟨inner, rfl, hexecute⟩
  | none => exact .inl ⟨rfl, execute_panic hexecute⟩

theorem execute_bind (program : Program S A) (rest : A → Program S B) (shared : Shared) :
    execute exec origin oracle (program >>= rest) shared =
      match execute exec origin oracle program shared with
      | some (some value, shared') => execute exec origin oracle (rest value) shared'
      | some (none, shared') => some (none, shared')
      | none => none := by
  induction program generalizing shared with
  | ret value => rfl
  | panic => rfl
  | call request next ih =>
      rw [call_bind, execute, execute]
      cases oracle request with
      | none => rfl
      | some answered =>
          cases hexec : exec shared origin request answered.1 answered.2 with
          | none => simp only [hexec]
          | some shared' =>
              simp only [hexec]
              exact ih answered.1 rest shared'
  | spawn role child next _ _ => rfl
  | join task next _ => rfl

/-- A sequence either panics in its first part, or goes on with the value of
that part. -/
theorem execute_bind_cases {program : Program S A} {rest : A → Program S B}
    {outcome : Option B}
    (hexecute : execute exec origin oracle (program >>= rest) shared =
      some (outcome, last)) :
    (outcome = none ∧ execute exec origin oracle program shared = some (none, last)) ∨
      ∃ value middle, execute exec origin oracle program shared = some (some value, middle) ∧
        execute exec origin oracle (rest value) middle = some (outcome, last) := by
  rw [execute_bind] at hexecute
  split at hexecute
  · rename_i value middle hprogram
    exact .inr ⟨value, middle, hprogram, hexecute⟩
  · rename_i middle hprogram
    cases hexecute
    exact .inl ⟨rfl, hprogram⟩
  · cases hexecute

end ScdtServer.Sequential

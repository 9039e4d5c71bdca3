import Mathlib

/-!
# Asynchronous programs as interaction trees

A program issues calls to its surroundings and continues with the answer; it
can spawn further tasks, wait for a spawned task to end, or panic.  The tree
says nothing about what a call does: that is the business of whoever executes
it (`TaskPool` interleaves many programs over one shared state).

The second half is a weakest-precondition calculus with ghost state.  A set of
`Rules` says what a task must own to issue a call and what it owns after each
answer; `wp` is the resulting obligation on a whole program.
-/

namespace ScdtServer.Interaction

/-- What programs may ask, what they are answered, the roles in which tasks can
be spawned, and the values that spawned tasks return. -/
structure Signature where
  Call : Type
  Answer : Call → Type
  Role : Type
  Result : Type

inductive Program (S : Signature) : Type → Type 1
  | ret {A : Type} (value : A) : Program S A
  | panic {A : Type} : Program S A
  | call {A : Type} (request : S.Call) (next : S.Answer request → Program S A) :
      Program S A
  | spawn {A : Type} (role : S.Role) (child : Program S S.Result)
      (next : ℕ → Program S A) : Program S A
  | join {A : Type} (task : ℕ) (next : Option S.Result → Program S A) : Program S A

namespace Program

variable {S : Signature} {A B C : Type}

protected def bind {A B : Type} : Program S A → (A → Program S B) → Program S B
  | .ret value, rest => rest value
  | .panic, _ => .panic
  | .call request next, rest => .call request fun answer => (next answer).bind rest
  | .spawn role child next, rest => .spawn role child fun task => (next task).bind rest
  | .join task next, rest => .join task fun outcome => (next outcome).bind rest

instance : Monad (Program S) where
  pure := .ret
  bind := Program.bind

@[simp]
theorem pure_eq_ret (value : A) : (pure value : Program S A) = .ret value := rfl

@[simp]
theorem ret_bind (value : A) (rest : A → Program S B) :
    (.ret value >>= rest) = rest value := rfl

@[simp]
theorem panic_bind (rest : A → Program S B) :
    ((.panic : Program S A) >>= rest) = .panic := rfl

@[simp]
theorem call_bind (request : S.Call) (next : S.Answer request → Program S A)
    (rest : A → Program S B) :
    (.call request next >>= rest) = .call request fun answer => next answer >>= rest :=
  rfl

@[simp]
theorem spawn_bind (role : S.Role) (child : Program S S.Result)
    (next : ℕ → Program S A) (rest : A → Program S B) :
    (.spawn role child next >>= rest) = .spawn role child fun task => next task >>= rest :=
  rfl

@[simp]
theorem join_bind (task : ℕ) (next : Option S.Result → Program S A)
    (rest : A → Program S B) :
    (.join task next >>= rest) = .join task fun outcome => next outcome >>= rest :=
  rfl

/-- A program that can do nothing any more: it has returned or panicked. -/
def isEnded : Program S A → Bool
  | .ret _ => true
  | .panic => true
  | _ => false

/-- What waiting for an ended program reports: its value, or nothing when it
panicked. -/
def outcome : Program S A → Option A
  | .ret value => some value
  | _ => none

/-- Rust's `assert!`. -/
def assert (condition : Bool) : Program S Unit :=
  if condition then .ret () else .panic

/-- Rust's `unwrap` on an `Option`. -/
def unwrap : Option A → Program S A
  | some value => .ret value
  | none => .panic

@[simp]
theorem assert_true : (assert true : Program S Unit) = .ret () := rfl

@[simp]
theorem assert_false : (assert false : Program S Unit) = .panic := rfl

@[simp]
theorem unwrap_some (value : A) : (unwrap (some value) : Program S A) = .ret value := rfl

@[simp]
theorem unwrap_none : (unwrap none : Program S A) = .panic := rfl

/-! ## Ghost state -/

/-- The rules of a program logic whose assertions are predicates on the ghost
state of one task.

* `pre` is what must hold to issue a call, `after` which ghost states an answer
  may lead to;
* `spawnable`, `give` and `keep` say when a task may spawn another, what it
  hands to it and what it is left with;
* `awaiting` is the spawned task that still has to be waited for, `joined` the
  ghost state once it has been;
* `ended` must hold of a task that has returned or panicked. -/
structure Rules (S : Signature) (G : Type) where
  pre : S.Call → G → Prop
  after : (request : S.Call) → S.Answer request → G → G → Prop
  spawnable : S.Role → G → Prop
  give : S.Role → G → G
  keep : S.Role → G → ℕ → G
  awaiting : G → Option ℕ
  joined : G → G
  ended : G → Prop

variable {G : Type} (R : Rules S G)

def wp {A : Type} : Program S A → (A → G → Prop) → G → Prop
  | .ret value, post, ghost => post value ghost
  | .panic, _, ghost => R.ended ghost
  | .call request next, post, ghost =>
      R.pre request ghost ∧ ∀ answer ghost',
        R.after request answer ghost ghost' → wp (next answer) post ghost'
  | .spawn role child next, post, ghost =>
      R.spawnable role ghost ∧
        wp child (fun _ => R.ended) (R.give role ghost) ∧
        ∀ task, wp (next task) post (R.keep role ghost task)
  | .join task next, post, ghost =>
      R.awaiting ghost = some task ∧
        ∀ outcome, wp (next outcome) post (R.joined ghost)

variable {R}

@[simp]
theorem wp_ret (value : A) (post : A → G → Prop) (ghost : G) :
    wp R (.ret value) post ghost ↔ post value ghost := Iff.rfl

@[simp]
theorem wp_panic (post : A → G → Prop) (ghost : G) :
    wp R (.panic : Program S A) post ghost ↔ R.ended ghost := Iff.rfl

theorem wp_call (request : S.Call) (next : S.Answer request → Program S A)
    (post : A → G → Prop) (ghost : G) :
    wp R (.call request next) post ghost ↔
      R.pre request ghost ∧ ∀ answer ghost',
        R.after request answer ghost ghost' → wp R (next answer) post ghost' :=
  Iff.rfl

theorem wp_spawn (role : S.Role) (child : Program S S.Result)
    (next : ℕ → Program S A) (post : A → G → Prop) (ghost : G) :
    wp R (.spawn role child next) post ghost ↔
      R.spawnable role ghost ∧
        wp R child (fun _ => R.ended) (R.give role ghost) ∧
        ∀ task, wp R (next task) post (R.keep role ghost task) :=
  Iff.rfl

theorem wp_join (task : ℕ) (next : Option S.Result → Program S A)
    (post : A → G → Prop) (ghost : G) :
    wp R (.join task next) post ghost ↔
      R.awaiting ghost = some task ∧
        ∀ outcome, wp R (next outcome) post (R.joined ghost) :=
  Iff.rfl

/-- Sequencing: the first program must establish what the second one needs. -/
@[simp]
theorem wp_bind (program : Program S A) (rest : A → Program S B)
    (post : B → G → Prop) (ghost : G) :
    wp R (program >>= rest) post ghost ↔
      wp R program (fun value => wp R (rest value) post) ghost := by
  induction program generalizing ghost with
  | ret value => rfl
  | panic => rfl
  | call request next ih =>
      simp only [call_bind, wp_call, ih]
  | spawn role child next _ ih =>
      simp only [spawn_bind, wp_spawn, ih]
  | join task next ih =>
      simp only [join_bind, wp_join, ih]

theorem wp_assert_true {condition : Bool} {post : Unit → G → Prop} {ghost : G}
    (hcondition : condition = true) (hpost : post () ghost) :
    wp R (assert condition) post ghost := by
  rw [hcondition]
  exact hpost

/-! ## What a program may spawn and return -/

/-- Every task that the program itself spawns satisfies `child`, and every value
it returns satisfies `post`, whatever it is answered. -/
def Spawns (child : S.Role → Program S S.Result → Prop) {A : Type} :
    Program S A → (A → Prop) → Prop
  | .ret value, post => post value
  | .panic, _ => True
  | .call _ next, post => ∀ answer, (next answer).Spawns child post
  | .spawn role program next, post =>
      child role program ∧ ∀ task, (next task).Spawns child post
  | .join _ next, post => ∀ outcome, (next outcome).Spawns child post

section

variable {child : S.Role → Program S S.Result → Prop}

@[simp]
theorem spawns_ret (value : A) (post : A → Prop) :
    (.ret value : Program S A).Spawns child post ↔ post value := Iff.rfl

@[simp]
theorem spawns_panic (post : A → Prop) :
    (.panic : Program S A).Spawns child post ↔ True := Iff.rfl

@[simp]
theorem spawns_bind (program : Program S A) (rest : A → Program S B) (post : B → Prop) :
    (program >>= rest).Spawns child post ↔
      program.Spawns child fun value => (rest value).Spawns child post := by
  induction program with
  | ret value => rfl
  | panic => rfl
  | call request next ih => exact forall_congr' fun answer => ih answer rest
  | spawn role program next _ ih =>
      exact and_congr_right fun _ => forall_congr' fun task => ih task rest
  | join task next ih => exact forall_congr' fun outcome => ih outcome rest

theorem Spawns.mono {program : Program S A} {post weaker : A → Prop}
    (hprogram : program.Spawns child post) (hweaker : ∀ value, post value → weaker value) :
    program.Spawns child weaker := by
  induction program with
  | ret value => exact hweaker value hprogram
  | panic => trivial
  | call request next ih => exact fun answer => ih answer (hprogram answer) hweaker
  | spawn role program next _ ih =>
      exact ⟨hprogram.1, fun task => ih task (hprogram.2 task) hweaker⟩
  | join task next ih => exact fun outcome => ih outcome (hprogram outcome) hweaker

/-- Sequencing, when nothing need be known about the intermediate value. -/
theorem Spawns.bind {program : Program S A} {rest : A → Program S B} {post : B → Prop}
    (hprogram : program.Spawns child fun _ => True)
    (hrest : ∀ value, (rest value).Spawns child post) :
    (program >>= rest).Spawns child post := by
  rw [spawns_bind]
  exact hprogram.mono fun value _ => hrest value

theorem spawns_assert {condition : Bool} {post : Unit → Prop} (hpost : post ()) :
    (assert condition : Program S Unit).Spawns child post := by
  cases condition with
  | true => exact hpost
  | false => trivial

theorem spawns_unwrap {value : Option A} {post : A → Prop}
    (hpost : ∀ inner, value = some inner → post inner) :
    (unwrap value : Program S A).Spawns child post := by
  cases value with
  | none => trivial
  | some inner => exact hpost inner rfl

end

/-! ## What a program comes to -/

/-- However its calls are answered, as long as the answers are allowed, the program
comes to a point at which the goal holds of what is left of it. -/
inductive ComesTo (allowed : (request : S.Call) → S.Answer request → Prop) {A : Type}
    (goal : Program S A → Prop) : Program S A → Prop
  | reached {program : Program S A} (hgoal : goal program) : ComesTo allowed goal program
  | answered {request : S.Call} {next : S.Answer request → Program S A}
      (hnext : ∀ answer, allowed request answer → ComesTo allowed goal (next answer)) :
      ComesTo allowed goal (.call request next)
  | spawned {role : S.Role} {child : Program S S.Result} {next : ℕ → Program S A}
      (hnext : ∀ task, ComesTo allowed goal (next task)) :
      ComesTo allowed goal (.spawn role child next)

variable {allowed : (request : S.Call) → S.Answer request → Prop}

/-- Sequencing: what the first program comes to is followed by the second one. -/
theorem ComesTo.bind {program : Program S A} {rest : A → Program S B}
    {middle : Program S A → Prop} {goal : Program S B → Prop}
    (hprogram : ComesTo allowed middle program)
    (hrest : ∀ left, middle left → ComesTo allowed goal (left >>= rest)) :
    ComesTo allowed goal (program >>= rest) := by
  induction hprogram with
  | reached hgoal => exact hrest _ hgoal
  | answered _ ih => exact .answered ih
  | spawned _ ih => exact .spawned ih

/-- A call on its own. -/
theorem ComesTo.mono {program : Program S A} {goal goal' : Program S A → Prop}
    (hprogram : ComesTo allowed goal program) (hgoal : ∀ left, goal left → goal' left) :
    ComesTo allowed goal' program := by
  induction hprogram with
  | reached hleft => exact .reached (hgoal _ hleft)
  | answered _ ih => exact .answered ih
  | spawned _ ih => exact .spawned ih

theorem ComesTo.ask {request : S.Call} {rest : S.Answer request → Program S A}
    {goal : Program S A → Prop}
    (hrest : ∀ answer, allowed request answer → ComesTo allowed goal (rest answer)) :
    ComesTo allowed goal (.call request .ret >>= rest) :=
  .answered hrest

/-! ## Paths through a program -/

/-- The calls a program has issued, with their answers, before it spawns or
joins anything. -/
inductive Path {A : Type} :
    Program S A → List (Σ request : S.Call, S.Answer request) → Program S A → Prop
  | nil {program : Program S A} : Path program [] program
  | cons {request : S.Call} {next : S.Answer request → Program S A}
      {answer : S.Answer request} {path : List (Σ request : S.Call, S.Answer request)}
      {last : Program S A} (hpath : Path (next answer) path last) :
      Path (.call request next) (⟨request, answer⟩ :: path) last

section

variable {asked : S.Call} {next : S.Answer asked → Program S B}
variable {path : List (Σ request : S.Call, S.Answer request)}

/-- A path to a call through a sequence ends in its first program or goes on in the
second one. -/
theorem Path.of_bind {program : Program S A} {rest : A → Program S B}
    (hpath : Path (program >>= rest) path (.call asked next)) :
    (∃ path' next', Path program path' (.call asked next')) ∨
      ∃ value path', Path (rest value) path' (.call asked next) := by
  induction program generalizing path with
  | ret value => exact .inr ⟨value, path, hpath⟩
  | panic => cases hpath
  | call request more ih =>
      cases hpath with
      | nil => exact .inl ⟨[], more, .nil⟩
      | cons hrest =>
          rcases ih _ hrest with ⟨path', next', hfirst⟩ | hsecond
          · exact .inl ⟨_, next', .cons hfirst⟩
          · exact .inr hsecond
  | spawn role child more _ _ => cases hpath
  | join task more _ => cases hpath

theorem Path.of_assert {condition : Bool} {next : S.Answer asked → Program S Unit} :
    ¬ Path (assert condition) path (.call asked next) := by
  cases condition <;> exact nofun

theorem Path.of_unwrap {value : Option A} {next : S.Answer asked → Program S A} :
    ¬ Path (unwrap value) path (.call asked next) := by
  cases value <;> exact nofun

theorem Path.of_ask {request : S.Call} {next : S.Answer asked → Program S (S.Answer request)}
    (hpath : Path (.call request .ret) path (.call asked next)) : request = asked := by
  cases hpath with
  | nil => rfl
  | cons hrest => cases hrest

end

end Program

end ScdtServer.Interaction

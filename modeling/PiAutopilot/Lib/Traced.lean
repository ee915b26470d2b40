import Mathlib.Data.List.Basic
import PiAutopilot.Lib.Fallible

set_option autoImplicit false

namespace PiAutopilot.Lib

/-- An attempt together with the calls it makes on the way, whether it fails or not. -/
structure Traced (τ ε α : Type) where
  result : Except ε α
  calls : List τ

namespace Traced

variable {τ ε α β σ : Type}

protected def bind (first : Traced τ ε α) (next : α → Traced τ ε β) : Traced τ ε β :=
  match first.result with
  | .ok value => ⟨(next value).result, first.calls ++ (next value).calls⟩
  | .error error => ⟨.error error, first.calls⟩

instance : Monad (Traced τ ε) where
  pure value := ⟨.ok value, []⟩
  bind := Traced.bind

def call (name : τ) : Traced τ ε Unit := ⟨.ok (), [name]⟩

def silent (result : Except ε α) : Traced τ ε α := ⟨result, []⟩

theorem bind_ok {first : Traced τ ε α} {value : α} (returned : first.result = .ok value) (next : α → Traced τ ε β) :
    first >>= next = ⟨(next value).result, first.calls ++ (next value).calls⟩ := by
  show first.bind next = _
  rw [Traced.bind, returned]

theorem bind_error {first : Traced τ ε α} {error : ε} (failed : first.result = .error error) (next : α → Traced τ ε β) :
    first >>= next = ⟨.error error, first.calls⟩ := by
  show first.bind next = _
  rw [Traced.bind, failed]

instance : LawfulMonad (Traced τ ε) := by
  refine LawfulMonad.mk' _ ?_ (fun value next => bind_ok rfl next) ?_
  · intro α ⟨result, calls⟩
    cases result with
    | ok value => exact (bind_ok rfl _).trans (congrArg _ (List.append_nil calls))
    | error error => exact bind_error rfl _
  · intro α β γ ⟨result, calls⟩ next last
    cases result with
    | error error => rfl
    | ok value =>
      rw [bind_ok rfl next, bind_ok rfl fun value => next value >>= last]
      generalize next value = second
      obtain ⟨middle, secondCalls⟩ := second
      cases middle with
      | error error => rfl
      | ok second => exact congrArg (Traced.mk _) (List.append_assoc calls secondCalls _)

@[simp] theorem result_pure (value : α) : (pure value : Traced τ ε α).result = .ok value := rfl

@[simp] theorem result_silent (result : Except ε α) : (silent result : Traced τ ε α).result = result := rfl

@[simp] theorem result_call (name : τ) : (call name : Traced τ ε Unit).result = .ok () := rfl

@[simp] theorem result_bind (first : Traced τ ε α) (next : α → Traced τ ε β) :
    (first >>= next).result = first.result >>= fun value => (next value).result := by
  cases returned : first.result with
  | ok value => rw [bind_ok returned]; rfl
  | error error => rw [bind_error returned]; rfl

theorem result_foldlM (step : σ → α → Traced τ ε σ) (items : List α) (state : σ) :
    (items.foldlM step state).result = items.foldlM (fun state item => (step state item).result) state := by
  induction items generalizing state with
  | nil => rfl
  | cons item rest ih => simp only [List.foldlM_cons, result_bind, ih]

theorem result_mapM (step : α → Traced τ ε β) (items : List α) : (items.mapM step).result = items.mapM fun item => (step item).result := by
  induction items with
  | nil => rfl
  | cons item rest ih => simp only [List.mapM_cons, result_bind, result_pure, ih]; rfl

def through (stops : τ → Bool) : List τ → List τ
  | [] => []
  | name :: rest => if stops name then [name] else name :: through stops rest

variable {stops : τ → Bool}

theorem through_stopped {walk later : List τ} (stopped : walk.any stops = true) : through stops (walk ++ later) = through stops walk := by
  induction walk with
  | nil => cases stopped
  | cons name rest ih =>
    rw [List.cons_append, through, through]
    by_cases here : stops name = true
    · rw [if_pos here, if_pos here]
    · rw [if_neg here, if_neg here]
      rw [List.any_cons, Bool.or_eq_true, or_iff_right here] at stopped
      rw [ih stopped]

theorem through_passed {walk : List τ} (later : List τ) (passed : walk.any stops = false) :
    through stops (walk ++ later) = walk ++ through stops later := by
  induction walk with
  | nil => rfl
  | cons name rest ih =>
    rw [List.any_cons, Bool.or_eq_false_iff] at passed
    rw [List.cons_append, through, if_neg (by simp [passed.1]), ih passed.2, List.cons_append]

/-- The attempt makes the calls of the walk up to the first that stops it, and fails exactly when one does. -/
structure Follows (stops : τ → Bool) (traced : Traced τ ε α) (walk : List τ) : Prop where
  calls : traced.calls = through stops walk
  fails : (∃ error, traced.result = .error error) ↔ walk.any stops = true

theorem follows_pure {value : α} : Follows stops (pure value : Traced τ ε α) [] := ⟨rfl, iff_of_false nofun nofun⟩

theorem follows_call {name : τ} (passes : stops name = false) : Follows stops (call name : Traced τ ε Unit) [name] := by
  refine ⟨?_, iff_of_false nofun ?_⟩
  · rw [through, if_neg (by simp [passes])]
    rfl
  · simp [passes]

theorem Follows.bind {first : Traced τ ε α} {walk later : List τ} (follows : Follows stops first walk)
    (next : α → Traced τ ε β) (goesOn : ∀ value, first.result = .ok value → Follows stops (next value) later) :
    Follows stops (first >>= next) (walk ++ later) := by
  cases returned : first.result with
  | error error =>
    have stopped := follows.fails.mp ⟨error, returned⟩
    rw [bind_error returned]
    refine ⟨follows.calls.trans (through_stopped stopped).symm, iff_of_true ⟨error, rfl⟩ ?_⟩
    rw [List.any_append, stopped, Bool.true_or]
  | ok value =>
    have passed : walk.any stops = false := by
      rw [Bool.eq_false_iff, Ne, ← follows.fails, returned]
      exact nofun
    have rest := goesOn value returned
    have whole : through stops walk = walk := by simpa [through] using through_passed [] passed
    rw [bind_ok returned]
    refine ⟨?_, rest.fails.trans ?_⟩
    · rw [through_passed later passed, ← rest.calls, follows.calls, whole]
    · rw [List.any_append, passed, Bool.false_or]

theorem Follows.last {first : Traced τ ε α} {walk : List τ} (follows : Follows stops first walk) (next : α → Traced τ ε β)
    (ends : ∀ value, first.result = .ok value → Follows stops (next value) []) : Follows stops (first >>= next) walk := by
  have whole := follows.bind next ends
  rwa [List.append_nil] at whole

theorem follows_foldlM {step : σ → α → Traced τ ε σ} {walk : α → List τ} {items : List α} (state : σ)
    (follows : ∀ item ∈ items, ∀ state, Follows stops (step state item) (walk item)) :
    Follows stops (items.foldlM step state) (items.flatMap walk) := by
  induction items generalizing state with
  | nil => exact follows_pure
  | cons item rest ih =>
    exact (follows item List.mem_cons_self state).bind _ fun next _ =>
      ih next fun other member => follows other (List.mem_cons_of_mem _ member)

theorem follows_mapM {step : α → Traced τ ε β} (walk : α → List τ) (items : List α)
    (follows : ∀ item ∈ items, Follows stops (step item) (walk item)) :
    Follows stops (items.mapM step) (items.flatMap walk) := by
  induction items with
  | nil => exact follows_pure
  | cons item rest ih =>
    rw [List.mapM_cons]
    refine (follows item List.mem_cons_self).bind _ fun value _ => ?_
    exact (ih fun other member => follows other (List.mem_cons_of_mem _ member)).last _ fun values _ =>
      follows_pure

end Traced

end PiAutopilot.Lib

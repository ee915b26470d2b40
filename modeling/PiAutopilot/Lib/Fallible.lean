import Mathlib.Data.List.Basic

set_option autoImplicit false

namespace PiAutopilot.Lib

variable {ε α β σ : Type}
  {attempt : Except ε α} {f : α → β} {result : β} {next : α → Except ε β} {failed : ε} {value : α} {allowed : ε → Prop} {step : σ → α → Except ε σ} {items : List α}

theorem map_ok (succeeded : attempt.map f = .ok result) : ∃ value, attempt = .ok value ∧ f value = result := by
  cases attempt with
  | error failed => cases succeeded
  | ok value => exact ⟨value, rfl, Except.ok.inj succeeded⟩

theorem bind_ok (succeeded : (attempt >>= next) = .ok result) : ∃ value, attempt = .ok value ∧ next value = .ok result := by
  cases attempt with
  | error failed => cases succeeded
  | ok value => exact ⟨value, rfl, succeeded⟩

theorem refused_ok {refused : Prop} [Decidable refused] {next : Except ε α}
    (succeeded : (if refused then .error failed else next) = .ok value) : ¬ refused ∧ next = .ok value := by
  split at succeeded
  · cases succeeded
  · exact ⟨‹_›, succeeded⟩

theorem required_ok {required : Prop} [Decidable required] {next : Except ε α}
    (succeeded : (if required then next else .error failed) = .ok value) : required ∧ next = .ok value := by
  split at succeeded
  · exact ⟨‹_›, succeeded⟩
  · cases succeeded

theorem map_then (attempt : Except ε α) (f : α → β) {γ : Type} (next : β → Except ε γ) :
    (attempt.map f >>= next) = attempt >>= fun value => next (f value) := by
  cases attempt with
  | error failed => rfl
  | ok value => rfl

theorem bind_congr_ok {other : α → Except ε β}
    (same : ∀ value, attempt = .ok value → next value = other value) : (attempt >>= next) = (attempt >>= other) := by
  cases attempt with
  | error failed => rfl
  | ok value => exact same value rfl

theorem bind_error (stopped : (attempt >>= next) = .error failed) :
    attempt = .error failed ∨ ∃ value, attempt = .ok value ∧ next value = .error failed := by
  cases attempt with
  | error earlier =>
    obtain rfl : earlier = failed := Except.error.inj stopped
    exact Or.inl rfl
  | ok value => exact Or.inr ⟨value, rfl, stopped⟩

-- Every error the computation can end with has the property.
def FailsOnly (allowed : ε → Prop) (attempt : Except ε α) : Prop := ∀ failed, attempt = .error failed → allowed failed

@[simp] theorem fails_only_ok : FailsOnly allowed (.ok value) := by
  intro failed stopped
  cases stopped

@[simp] theorem fails_only_error : FailsOnly allowed (.error failed : Except ε α) ↔ allowed failed := by
  constructor
  · intro only
    exact only failed rfl
  · intro holds other stopped
    cases stopped
    exact holds

@[simp] theorem fails_only_map : FailsOnly allowed (attempt.map f) ↔ FailsOnly allowed attempt := by
  cases attempt with
  | error failed => simp [Except.map]
  | ok value => simp [Except.map]

theorem fails_only_bind (first : FailsOnly allowed attempt) (continued : ∀ value, attempt = .ok value → FailsOnly allowed (next value)) :
    FailsOnly allowed (attempt >>= next) := by
  intro failed stopped
  rcases bind_error stopped with early | ⟨value, succeeded, late⟩
  · exact first failed early
  · exact continued value succeeded failed late

-- Every result the computation can return has the property.
def SucceedsOnly (allowed : α → Prop) (attempt : Except ε α) : Prop := ∀ value, attempt = .ok value → allowed value

@[simp] theorem succeeds_only_ok {allowed : α → Prop} : SucceedsOnly allowed (.ok value : Except ε α) ↔ allowed value := by
  constructor
  · intro only
    exact only value rfl
  · intro holds other succeeded
    cases succeeded
    exact holds

@[simp] theorem succeeds_only_error {allowed : α → Prop} : SucceedsOnly allowed (.error failed) := by
  intro value succeeded
  cases succeeded

@[simp] theorem succeeds_only_map {allowed : β → Prop} :
    SucceedsOnly allowed (attempt.map f) ↔ SucceedsOnly (fun value => allowed (f value)) attempt := by
  cases attempt with
  | error failed => simp [Except.map]
  | ok value => simp [Except.map]

theorem succeeds_only_bind {middle : α → Prop} {allowed : β → Prop}
    (first : SucceedsOnly middle attempt) (continued : ∀ value, middle value → SucceedsOnly allowed (next value)) :
    SucceedsOnly allowed (attempt >>= next) := by
  intro result succeeded
  obtain ⟨value, found, returned⟩ := bind_ok succeeded
  exact continued value (first value found) result returned

-- What one step keeps, a whole run of a fallible step function keeps; the log is the items consumed so far.
theorem foldlM_keeps (holds : List α → σ → Prop)
    (keeps : ∀ log state item after, holds log state → step state item = .ok after → holds (log ++ [item]) after)
    (items log : List α) (state after : σ) (start : holds log state) (ran : items.foldlM step state = .ok after) :
    holds (log ++ items) after := by
  induction items generalizing log state with
  | nil =>
    cases ran
    rw [List.append_nil]
    exact start
  | cons item rest ih =>
    obtain ⟨next, stepped, remaining⟩ := bind_ok ran
    have continued := ih (log ++ [item]) next (keeps log state item next start stepped) remaining
    rw [List.append_assoc] at continued
    exact continued

theorem foldlM_snoc {item : α} {state after : σ} : (items ++ [item]).foldlM step state = .ok after ↔
      ∃ middle, items.foldlM step state = .ok middle ∧ step middle item = .ok after := by
  rw [List.foldlM_append]
  constructor
  · intro ran
    obtain ⟨middle, first, last⟩ := bind_ok ran
    obtain ⟨next, stepped, returned⟩ := bind_ok last
    cases returned
    exact ⟨middle, first, stepped⟩
  · rintro ⟨middle, first, stepped⟩
    rw [first]
    show (step middle item >>= fun next => [].foldlM step next) = .ok after
    rw [stepped]
    rfl

theorem bind_eq_ok (first : attempt = .ok value) (second : next value = .ok result) : (attempt >>= next) = .ok result := by
  rw [first]
  exact second

-- A check and what stands behind it.
theorem then_ok {check : Except ε Unit} {next : Unit → Except ε β} :
    (check >>= next) = .ok result ↔ check = .ok () ∧ next () = .ok result := by
  constructor
  · intro succeeded
    obtain ⟨⟨⟩, passed, continued⟩ := bind_ok succeeded
    exact ⟨passed, continued⟩
  · rintro ⟨passed, continued⟩
    exact bind_eq_ok passed continued

-- Rewording the error leaves a success as it is.
theorem map_error_ok {ε' : Type} {reword : ε → ε'} : attempt.mapError reword = .ok value ↔ attempt = .ok value := by
  cases attempt with
  | error failed => simp [Except.mapError]
  | ok other => simp [Except.mapError]

-- A loop may be run with any step that gives the same results.
theorem foldlM_agrees (step other : σ → α → Except ε σ) (agrees : ∀ state item after, step state item = .ok after →
    other state item = .ok after) (state after : σ) (ran : items.foldlM step state = .ok after) :
    items.foldlM other state = .ok after := by
  induction items generalizing state with
  | nil => exact ran
  | cons item rest ih =>
    obtain ⟨middle, stepped, remaining⟩ := bind_ok ran
    exact bind_eq_ok (agrees state item middle stepped) (ih middle remaining)

theorem foldlM_succeeds (succeeds : ∀ item ∈ items, ∀ state, ∃ after, step state item = .ok after) (state : σ) :
    ∃ after, items.foldlM step state = .ok after := by
  induction items generalizing state with
  | nil => exact ⟨state, rfl⟩
  | cons item rest ih =>
    obtain ⟨middle, stepped⟩ := succeeds item List.mem_cons_self state
    obtain ⟨after, ran⟩ := ih (fun other member => succeeds other (List.mem_cons_of_mem _ member)) middle
    exact ⟨after, bind_eq_ok stepped ran⟩

end PiAutopilot.Lib

import PiAutopilot.Authority.Fold
import PiAutopilot.Authority.HotPage

set_option autoImplicit false

namespace PiAutopilot.Authority

open Protocol

-- The abstract maps that the twelve indexes of a run authenticate.
abbrev Contents := IndexName → Key → Option IndexValue

def put (contents : Contents) (name : IndexName) (key : Key) (value : IndexValue) : Contents :=
  Function.update contents name (Function.update (contents name) key (some value))

@[simp] theorem put_same {contents : Contents} {name : IndexName} (key : Key) (value : IndexValue) :
    put contents name key value name = Function.update (contents name) key (some value) :=
  Function.update_self ..

theorem put_other {contents : Contents} {name name' : IndexName} {key : Key} {value : IndexValue} (different : name' ≠ name) :
    put contents name key value name' = contents name' :=
  Function.update_of_ne different ..

section Reads

variable [Hashing]

structure Holds (name : IndexName) (index : RunIndex) (contents : Key → Option IndexValue) : Prop where
  named : index.name = name
  represents : Represents index contents
  exactly : HotExact index contents

variable (state : RunState) (contents : Contents)

def Reads : Prop := ∀ name, Holds name (state.indexes name) (contents name)

-- The state after one index write; every other field is as before.
noncomputable def writeIndex (name : IndexName) (key : Key) (value : IndexValue) : RunState :=
  { state with indexes := replaceIndex state.indexes name (mutated (state.indexes name) (contents name) key (some value)) }

@[simp] theorem write_index_same (name : IndexName) (key : Key) (value : IndexValue) :
    (writeIndex state contents name key value).indexes name = mutated (state.indexes name) (contents name) key (some value) :=
  Function.update_self ..

variable {name : IndexName} {value : IndexValue} {key : Key} {pages : List IndexPage} {identity : JsString}

theorem write_index_other {name' : IndexName}
    (different : name' ≠ name) : (writeIndex state contents name key value).indexes name' = state.indexes name' :=
  Function.update_of_ne different ..

theorem initial_reads {genesis : RunGenesis} : Reads (initialState genesis) fun _ _ => none :=
  fun name => ⟨rfl, initial_represents, initial_hot_exact⟩

theorem reads_of_indexes (state after : RunState) {contents : Contents} (reads : Reads state contents)
    (same : after.indexes = state.indexes) : Reads after contents := by
  intro name
  rw [same]
  exact reads name

theorem reads_unique (collisionFree : CollisionFree IndexValue) {state : RunState} {left right : Contents}
    (readsLeft : Reads state left) (readsRight : Reads state right) : left = right := by
  funext name
  apply map_root_injective collisionFree
  rw [← (readsLeft name).represents.root, ← (readsRight name).represents.root]

theorem reads_write (reads : Reads state contents) : Reads (writeIndex state contents name key value) (put contents name key value) := by
  intro name'
  by_cases same : name' = name
  · subst same
    rw [put_same, write_index_same]
    exact ⟨(reads name').named, mutated_represents _ _ key (some value), mutated_hot_exact (reads name').exactly key value⟩
  · rw [put_other same, write_index_other state contents same]
    exact reads name'

variable {state : RunState} {contents : Contents} (collisionFree : CollisionFree IndexValue) (reads : Reads state contents)

include collisionFree reads

theorem lookup_reads {value : Option IndexValue}
    {witness : SparseWitness IndexValue} (proved : lookupIndex (state.indexes name) key pages = .proved value witness) :
    value = contents name key :=
  (lookup_sound collisionFree (reads name).represents.root proved).1

theorem lookup_value_reads {value : Option IndexValue} (found : lookupValue state pages name identity = some value) :
    value = contents name (indexKey name identity) := by
  rw [lookupValue] at found
  split at found
  case h_1 stored witness proved =>
    cases found
    exact lookup_reads collisionFree reads proved
  case h_2 => cases found

omit collisionFree reads in
-- One index write of a fact: what was derived from the stored value is now stored.
theorem mutate_ok (collisionFree : CollisionFree IndexValue) (state : RunState) {contents : Contents}
    (reads : Reads state contents) (context : TransitionContext) (prepares : context.supplied = none) (name : IndexName)
    (identity : JsString) (deriveNext : Option IndexValue → NextValue) (progress : Progress)
    (moved : mutate state context name identity deriveNext = .ok progress) :
    ∃ next, deriveNext (contents name (indexKey name identity)) = .next next ∧ progress.state = { state with
        indexes := replaceIndex state.indexes name (mutated (state.indexes name) (contents name) (indexKey name identity) next) } ∧
      progress.context.pages = context.pages ∧ progress.context.supplied = none := by
  rw [mutate] at moved
  simp only [prepares, Option.bind_none, Option.isSome_none, Bool.false_and, Bool.false_eq_true, if_false, Option.getD_none] at moved
  split at moved
  case h_1 => cases moved
  case h_2 value witness proved =>
    obtain rfl := lookup_reads collisionFree reads proved
    split at moved
    case h_1 => cases moved
    case h_2 next derived =>
      split at moved
      case h_1 => cases moved
      case h_2 mutation prior prepared =>
        split at moved
        case h_1 => cases moved
        case h_2 changed applied =>
          obtain ⟨rfl, rfl⟩ := prepare_sound collisionFree (reads name).represents.root prepared
          rw [apply_prepared _ _ (reads name).represents, MutationApplication.applied.injEq] at applied
          cases moved
          exact ⟨next, derived, by rw [applied], rfl, rfl⟩

-- A fact that inserts a new entry found none under its key.
theorem mutate_insert_ok {context : TransitionContext} (prepares : context.supplied = none) {code : String} {diagnostic : JsString} {progress : Progress}
    (moved : mutate state context name identity (insertOnly value code diagnostic) = .ok progress) :
    contents name (indexKey name identity) = none ∧ progress.state = writeIndex state contents name (indexKey name identity) value ∧
      progress.context.pages = context.pages ∧ progress.context.supplied = none := by
  obtain ⟨next, derived, after, pages, supplied⟩ := mutate_ok collisionFree state reads context prepares name identity _ progress moved
  cases stored : contents name (indexKey name identity) with
  | some prior =>
    rw [stored] at derived
    cases derived
  | none =>
    rw [stored] at derived
    cases derived
    exact ⟨rfl, after, pages, supplied⟩

end Reads

end PiAutopilot.Authority

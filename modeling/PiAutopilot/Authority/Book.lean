import PiAutopilot.Authority.Reads

set_option autoImplicit false

namespace PiAutopilot.Authority

open Protocol
open Lib

-- The hot pages of the twelve indexes, as lists of entries.
abbrev Book := IndexName → List (Key × IndexValue)

def emptyBook : Book := fun _ => []

def entryOf (book : Book) : Contents := fun name => getOwn (book name)

def enter (book : Book) (name : IndexName) (key : Key) (value : IndexValue) : Book :=
  Function.update book name (retainedHot (book name) key (some value))

-- A book whose pages are complete: no key twice, and no page longer than a hot page may be.
structure Orderly (book : Book) : Prop where
  distinct : ∀ name, ((book name).map Prod.fst).Nodup
  short : ∀ name, (book name).length ≤ maxHotIndexValues

theorem empty_book_orderly : Orderly emptyBook := ⟨fun _ => List.nodup_nil, fun _ => Nat.zero_le _⟩

theorem retained_hot_length (entries : List (Key × IndexValue)) (key : Key) (value : IndexValue) :
    (retainedHot entries key (some value)).length ≤ entries.length + 1 := by
  rw [retainedHot, (sort_by_key_perm _).length_eq, List.length_append]
  exact Nat.add_le_add_right (List.length_filter_le _ _) 1

variable {book : Book} {entries : List (Key × IndexValue)}

theorem enter_orderly (orderly : Orderly book) {name : IndexName} (key : Key) (value : IndexValue)
    (room : (book name).length < maxHotIndexValues) : Orderly (enter book name key value) := by
  constructor
  · intro name'
    by_cases same : name' = name
    · subst same
      rw [enter, Function.update_self]
      exact retained_hot_distinct key (some value) (orderly.distinct name')
    · rw [enter, Function.update_of_ne same]
      exact orderly.distinct name'
  · intro name'
    by_cases same : name' = name
    · subst same
      rw [enter, Function.update_self]
      have grown := retained_hot_length (book name') key value
      omega
    · rw [enter, Function.update_of_ne same]
      exact orderly.short name'

theorem get_own_retained (distinct : (entries.map Prod.fst).Nodup) (key : Key) (value : IndexValue) :
    getOwn (retainedHot entries key (some value)) = Function.update (getOwn entries) key (some value) := by
  have kept := retained_hot_distinct key (some value) distinct
  funext key'
  apply Option.ext
  intro value'
  rw [get_own_iff kept, mem_retained_hot]
  by_cases same : key' = key
  · subst same
    simp
  · simp [same, get_own_iff distinct]

theorem entry_of_enter (orderly : Orderly book) (name : IndexName) (key : Key) (value : IndexValue) :
    entryOf (enter book name key value) = put (entryOf book) name key value := by
  funext name'
  by_cases same : name' = name
  · subst same
    rw [put_same, entryOf, enter, Function.update_self, get_own_retained (orderly.distinct name')]
    rfl
  · rw [put_other same, entryOf, enter, Function.update_of_ne same]
    rfl

theorem map_count_listed (distinct : (entries.map Prod.fst).Nodup) : mapCount (getOwn entries) = entries.length := by
  have keys : { key | (getOwn entries key).isSome } = ((entries.map Prod.fst).toFinset : Set Key) := by
    simp only [Set.mem_ofPred_eq, get_own_isSome, List.coe_toFinset]
  rw [map_count_is_ncard, keys, Set.ncard_coe_finset, List.toFinset_card_of_nodup distinct, List.length_map]

section Book

variable [Hashing]

noncomputable def pageOf (name : IndexName) (entries : List (Key × IndexValue)) : RunIndex where
  name := name
  root := mapRoot (getOwn entries)
  count := .ofNat entries.length
  hotComplete := true
  hot := entries

variable (state : RunState) (book : Book) (orderly : Orderly book)

-- The state whose indexes hold exactly what the book lists.
noncomputable def onBook : RunState := { state with indexes := fun name => pageOf name (book name) }

@[simp] theorem on_book_identity : (onBook state book).identity = state.identity := rfl

@[simp] theorem on_book_phase : (onBook state book).phase = state.phase := rfl

@[simp] theorem on_book_last_sequence : (onBook state book).lastSequence = state.lastSequence := rfl

@[simp] theorem on_book_requirements : (onBook state book).requirements = state.requirements := rfl

@[simp] theorem on_book_current_plan : (onBook state book).currentPlan = state.currentPlan := rfl

@[simp] theorem on_book_current_candidate : (onBook state book).currentCandidate = state.currentCandidate := rfl

@[simp] theorem on_book_current_publication : (onBook state book).currentPublication = state.currentPublication := rfl

@[simp] theorem on_book_final_attestations : (onBook state book).finalAttestations = state.finalAttestations := rfl

@[simp] theorem on_book_planning_gap : (onBook state book).planningGap = state.planningGap := rfl

@[simp] theorem on_book_counters : (onBook state book).counters = state.counters := rfl

@[simp] theorem on_book_suspension : (onBook state book).suspension = state.suspension := rfl

@[simp] theorem on_book_terminal : (onBook state book).terminal = state.terminal := rfl

@[simp] theorem on_book_hot (name : IndexName) : ((onBook state book).indexes name).hot = book name := rfl

@[simp] theorem on_book_hot_complete (name : IndexName) : ((onBook state book).indexes name).hotComplete = true := rfl

include orderly

theorem on_book_reads : Reads (onBook state book) (entryOf book) := by
  intro name
  have counted := map_count_listed (orderly.distinct name)
  refine ⟨rfl, ⟨rfl, ?_⟩, ⟨?_, orderly.distinct name, ?_⟩⟩
  · rw [entryOf, counted]
    exact value_of_nat _
  · rw [entryOf, counted]
    exact (decide_eq_true (orderly.short name)).symm
  · intro _ key value
    exact (get_own_iff (orderly.distinct name) key value).symm

variable {name : IndexName} {identity : JsString}

theorem on_book_lookup {key : Key} {pages : List IndexPage} : lookupIndex ((onBook state book).indexes name) key pages =
      .proved (entryOf book name key) ⟨key, mapPath (entryOf book name) key, entryOf book name key⟩ := by
  have reads := on_book_reads state book orderly name
  exact lookup_complete _ _ reads.represents.root reads.exactly rfl key pages

theorem on_book_lookup_value (pages : List IndexPage) (name : IndexName) (identity : JsString) :
    lookupValue (onBook state book) pages name identity = some (entryOf book name (indexKey name identity)) := by
  rw [lookupValue, on_book_lookup state book orderly]

theorem on_book_write (key : Key) (value : IndexValue) (room : (book name).length < maxHotIndexValues) : { onBook state book with
      indexes := replaceIndex (onBook state book).indexes name
        (mutated ((onBook state book).indexes name) (entryOf book name) key (some value)) } =
      onBook state (enter book name key value) := by
  have after := enter_orderly orderly key value room
  have counted := map_count_listed (after.distinct name)
  have listed : entryOf (enter book name key value) name = Function.update (entryOf book name) key (some value) := by
    rw [entry_of_enter orderly, put_same]
  have page : (mutated ((onBook state book).indexes name) (entryOf book name) key (some value)) =
      pageOf name (enter book name key value name) := by
    have short := after.short name
    rw [← counted] at short
    rw [mutated, ← listed, pageOf, hotPage, entryOf, if_pos short, counted, decide_eq_true (after.short name), enter, Function.update_self]
    rfl
  have pages : replaceIndex (onBook state book).indexes name (pageOf name (enter book name key value name)) =
      (onBook state (enter book name key value)).indexes := by
    funext name'
    by_cases same : name' = name
    · subst same
      rw [replaceIndex, Function.update_self]
      rfl
    · rw [replaceIndex, onBook, onBook, enter]
      simp only [Function.update_of_ne same]
  rw [page, pages]
  rfl

-- An index write of a fact on a listed state is an entry in the book.
theorem on_book_mutate (pages : List IndexPage) (produced : List IndexMutation) (cursor : Nat)
    {deriveNext : Option IndexValue → NextValue} {value : IndexValue}
    (derived : deriveNext (entryOf book name (indexKey name identity)) = .next (some value))
    (room : (book name).length < maxHotIndexValues) :
    ∃ mutation, mutate (onBook state book) ⟨pages, none, produced, cursor⟩ name identity deriveNext =
      .ok ⟨onBook state (enter book name (indexKey name identity) value), ⟨pages, none, produced ++ [mutation], cursor + 1⟩⟩ := by
  have reads := on_book_reads state book orderly name
  refine ⟨preparedMutation ((onBook state book).indexes name) (entryOf book name) (indexKey name identity) (some value), ?_⟩
  rw [mutate]
  simp only [on_book_lookup state book orderly, derived, Option.bind_none, Option.isSome_none, Bool.false_and, Bool.false_eq_true,
    if_false, Option.getD_none, prepare_complete _ _ reads.represents.root reads.exactly rfl,
    apply_prepared _ _ reads.represents, on_book_write state book orderly _ value room]

theorem on_book_insert (pages : List IndexPage) (produced : List IndexMutation) (cursor : Nat) (value : IndexValue)
    (code : String) (diagnostic : JsString) (absent : entryOf book name (indexKey name identity) = none)
    (room : (book name).length < maxHotIndexValues) :
    ∃ mutation, mutate (onBook state book) ⟨pages, none, produced, cursor⟩ name identity (insertOnly value code diagnostic) =
      .ok ⟨onBook state (enter book name (indexKey name identity) value), ⟨pages, none, produced ++ [mutation], cursor + 1⟩⟩ := by
  apply on_book_mutate state book orderly pages produced cursor _ room
  rw [absent]
  rfl

theorem on_book_transition {pages : List IndexPage} {next : IndexValue}
    (absent : entryOf book name (indexKey name identity) = none) (room : (book name).length < maxHotIndexValues) :
    ∃ mutation, transitionIndex (onBook state book) name identity next pages none =
      .ok ⟨onBook state (enter book name (indexKey name identity) next), mutation⟩ := by
  have reads := on_book_reads state book orderly name
  refine ⟨preparedMutation ((onBook state book).indexes name) (entryOf book name) (indexKey name identity) (some next), ?_⟩
  have applied := apply_prepared _ _ reads.represents (indexKey name identity) (some next)
  rw [absent] at applied
  rw [transitionIndex]
  simp only [on_book_lookup state book orderly, absent, Option.map_none, ne_eq, not_true_eq_false, if_false,
    prepare_complete _ _ reads.represents.root reads.exactly rfl, applied, on_book_write state book orderly _ next room]

omit orderly

theorem initial_on_book {genesis : RunGenesis} : initialState genesis = onBook (initialState genesis) emptyBook := by
  have pages : (fun name => pageOf name []) = (initialState genesis).indexes := by
    funext name
    have empty : getOwn ([] : List (Key × IndexValue)) = fun _ => none := rfl
    rw [pageOf, empty, map_root_empty]
    rfl
  show initialState genesis = { initialState genesis with indexes := fun name => pageOf name [] }
  rw [pages]

end Book

end PiAutopilot.Authority

import PiAutopilot.Authority.Reaction
import PiAutopilot.Authority.FactStep
import PiAutopilot.Lib.Fallible

set_option autoImplicit false

namespace PiAutopilot.Authority

open Lib Protocol

section Wanted

variable [Hashing]

def commandKey (command : Command) : Key := indexKey .commands command.commandId.text

variable (state : RunState)

def readyWorks : List WorkIndexValue := (state.indexes .work).hot.filterMap fun entry => readyWork entry.2

def wantedFor (work : WorkIndexValue) : List Command := reserveCommand work :: (evidenceCommand work state).toList

-- The commands a running state asks for, known or not.
def wantedCommands : List Command := (readyWorks state).flatMap (wantedFor state) ++ (publicationCommand state).toList

-- The issued commands are the wanted ones that the index does not hold yet.
structure Answers (contents : Contents) (wanted issued : List Command) : Prop where
  asked : ∀ command ∈ issued, command ∈ wanted ∧ contents .commands (commandKey command) = none
  answered : ∀ command ∈ wanted, (contents .commands (commandKey command)).isSome ∨
    ∃ answer ∈ issued, answer.commandId = command.commandId

variable (pages : List IndexPage)

theorem note_optional_noted (commands : List Command) (command : Option Command) :
    noteOptional state pages commands command = command.toList.foldlM (noteCommand state pages) commands := by
  cases command with
  | none => rfl
  | some command => exact (bind_pure _).symm

theorem work_commands_noted (commands : List Command) (work : WorkIndexValue) :
    workCommands state pages commands work = (wantedFor state work).foldlM (noteCommand state pages) commands := by
  rw [workCommands, wantedFor, List.foldlM_cons]
  simp only [note_optional_noted]

theorem works_noted (works : List WorkIndexValue) (commands : List Command) : works.foldlM (workCommands state pages) commands =
      (works.flatMap (wantedFor state)).foldlM (noteCommand state pages) commands := by
  induction works generalizing commands with
  | nil => rfl
  | cons work rest ih =>
    rw [List.flatMap_cons, List.foldlM_append, List.foldlM_cons, work_commands_noted]
    simp only [ih]

theorem derive_reaction_noted {state prospective : RunState} {facts : List DomainFact} {pages : List IndexPage}
    (after : stateAfterFacts state facts pages = .ok prospective) :
    deriveReaction state facts pages =
      if isSuspended prospective.suspension || prospective.terminal.isSome then .ok []
      else if !(prospective.indexes .work).hotComplete then
        semanticFeedback .pageUnproven "$.pages"
          (js "ready-work page is required when the authenticated work index exceeds the bounded hot page")
      else (wantedCommands prospective).foldlM (noteCommand prospective pages) [] := by
  rw [deriveReaction, after, wantedCommands, List.foldlM_append, ← works_noted]
  simp only [note_optional_noted]
  rfl

variable {contents : Contents} {wanted : List Command}

-- A state in which every wanted command is known reacts with nothing.
theorem nothing_wanted (known : ∀ command ∈ wanted, commandKnown state command pages = .ok true) :
    wanted.foldlM (noteCommand state pages) [] = .ok [] := by
  induction wanted with
  | nil => rfl
  | cons command rest ih =>
    have first : noteCommand state pages [] command = .ok [] := by
      rw [noteCommand, known command List.mem_cons_self]
      rfl
    rw [List.foldlM_cons, first]
    exact ih fun later member => known later (List.mem_cons_of_mem _ member)

variable {state : RunState} (collisionFree : CollisionFree IndexValue)
  (reads : Reads state contents)

include collisionFree reads

theorem command_known_ok {command : Command} {pages : List IndexPage} {known : Bool}
    (found : commandKnown state command pages = .ok known) :
    known = (contents .commands (commandKey command)).isSome := by
  rw [commandKnown] at found
  split at found
  · cases found
  · rename_i value witness proved
    cases found
    rw [lookup_reads collisionFree reads proved]
    rfl

theorem note_command_answers {pages : List IndexPage} {commands after : List Command} {command : Command}
    (answers : Answers contents wanted commands) (noted : noteCommand state pages commands command = .ok after) :
    Answers contents (wanted ++ [command]) after := by
  obtain ⟨known, found, chosen⟩ := bind_ok noted
  have isKnown := command_known_ok collisionFree reads found
  have askedEarlier : ∀ earlier ∈ commands, earlier ∈ wanted ++ [command] ∧ contents .commands (commandKey earlier) = none := by
    intro earlier member
    obtain ⟨isWanted, absent⟩ := answers.asked earlier member
    exact ⟨List.mem_append_left _ isWanted, absent⟩
  split at chosen
  · rename_i fresh
    cases chosen
    rw [Bool.and_eq_true, Bool.not_eq_true'] at fresh
    have absent : contents .commands (commandKey command) = none := by
      rw [← Option.not_isSome_iff_eq_none, ← isKnown, fresh.1]
      exact Bool.false_ne_true
    constructor
    · intro issued member
      rcases List.mem_append.mp member with earlier | last
      · exact askedEarlier issued earlier
      · obtain rfl := List.mem_singleton.mp last
        exact ⟨List.mem_append_right _ (List.mem_singleton_self _), absent⟩
    · intro asked member
      rcases List.mem_append.mp member with earlier | last
      · rcases answers.answered asked earlier with stored | ⟨answer, answering, same⟩
        · exact Or.inl stored
        · exact Or.inr ⟨answer, List.mem_append_left _ answering, same⟩
      · obtain rfl := List.mem_singleton.mp last
        exact Or.inr ⟨asked, List.mem_append_right _ (List.mem_singleton_self _), rfl⟩
  · rename_i old
    cases chosen
    refine ⟨askedEarlier, ?_⟩
    intro asked member
    rcases List.mem_append.mp member with earlier | last
    · exact answers.answered asked earlier
    · obtain rfl := List.mem_singleton.mp last
      cases known with
      | true => exact Or.inl isKnown.symm
      | false =>
        right
        simpa using old

theorem noted_answers {pages : List IndexPage} {issued : List Command}
    (noted : wanted.foldlM (noteCommand state pages) [] = .ok issued) : Answers contents wanted issued := by
  have start : Answers contents [] [] := ⟨by simp, by simp⟩
  have whole := foldlM_keeps (Answers contents) (fun wanted commands command after answers noted =>
      note_command_answers collisionFree reads answers noted)
    wanted [] [] issued start noted
  rwa [List.nil_append] at whole

end Wanted

end PiAutopilot.Authority

import XdsService.Console.Settling

/-!
# The transcript of a run

Whatever happens to the page, the element output lists the calls that were
settled, in the order in which the moves settled them, each with its own answer;
every other call has its reactions waiting; and the graph was drawn from the
answers to the calls of graphAGLBindings.
-/

namespace XdsService
namespace Console

open Foundation
open Foundation.Program
open XdsService.Graph
open Websock

variable {number : Int -> Int -> List Char}
variable {tab tab' : Tab} {answered : List Waiting} {ticket : Ticket}
variable {moves : List (Move Tab TabAction Unit)}
variable {move : Move Tab TabAction Unit}

def Tab.Pending (tab : Tab) (ticket : Ticket) : Prop :=
  exists state, tab.stateAt ticket = some state ∧ isPending state = true

/-- A move made the call that is waited for, and it says whether to draw. -/
def AskedIn (moves : List (Move Tab TabAction Unit)) (waiting : Waiting) :
    Prop :=
  exists move, move ∈ moves ∧ Makes waiting.ticket move ∧
    waiting.draws = move.action.draws

/-- What the page shows are the answers to these calls, and nothing else. -/
structure Transcribes (number : Int -> Int -> List Char)
    (moves : List (Move Tab TabAction Unit)) (answered : List Waiting)
    (tab : Tab) : Prop where
  inOrder : Chronicle Settles moves (answered.map Waiting.ticket)
  asked : forall waiting, waiting ∈ answered ++ tab.waiting ->
    AskedIn moves waiting
  answeredOnce : (answered.map Waiting.ticket).Nodup
  answered_iff : forall ticket : Ticket,
    ticket ∈ answered.map Waiting.ticket <-> tab.Settled ticket
  waitingOnce : (tab.waiting.map Waiting.ticket).Nodup
  waiting_iff : forall ticket : Ticket,
    ticket ∈ tab.waiting.map Waiting.ticket <-> tab.Pending ticket
  output : lines tab.logger Element.output = answerLines number 0
    (answered.filterMap fun waiting => tab.answerTo waiting.ticket)
  count : tab.logger.count =
    (answered.filterMap fun waiting => tab.answerTo waiting.ticket).length
  outevt : exists events : List (Option Json),
    lines tab.logger Element.outevt = eventLines number 0 events ∧
      tab.logger.evtIdx = events.length
  diagram : tab.diagram =
    drawnAfter number Diagram.empty (answered.filterMap tab.answerToDraw)

theorem not_settled_of_pending (h : tab.Pending ticket) :
    ¬ tab.Settled ticket := by
  rcases h with ⟨state, hstate, hpending⟩
  rintro ⟨state', hstate', hsettled⟩
  rw [hstate] at hstate'
  cases hstate'
  rw [hpending] at hsettled
  cases hsettled

theorem stateAt_cases (tab : Tab) (ticket : Ticket) :
    tab.stateAt ticket = none ∨ tab.Pending ticket ∨ tab.Settled ticket := by
  cases hstate : tab.stateAt ticket with
  | none => exact Or.inl rfl
  | some state =>
      right
      cases hpending : isPending state with
      | true => exact Or.inl ⟨state, hstate, hpending⟩
      | false => exact Or.inr ⟨state, hstate, hpending⟩

theorem transcribes_fresh (urlWS : String) :
    Transcribes number [] [] (Tab.fresh urlWS) where
  inOrder := Chronicle.nil
  asked := by
    intro waiting hmem
    cases hmem
  answeredOnce := List.nodup_nil
  answered_iff := by
    intro ticket
    constructor
    · intro hmem
      cases hmem
    · rintro ⟨state, hstate, _⟩
      cases hstate
  waitingOnce := List.nodup_nil
  waiting_iff := by
    intro ticket
    constructor
    · intro hmem
      cases hmem
    · rintro ⟨state, hstate, _⟩
      cases hstate
  output := rfl
  count := rfl
  outevt := ⟨[], rfl, rfl⟩
  diagram := rfl

/-!
## A script
-/

theorem Advances.settled_of_settled (h : Advances number tab tab')
    (hsettled : tab.Settled ticket) : tab'.Settled ticket := by
  rcases hsettled with ⟨state, hstate, hpending⟩
  exact ⟨state, h.settled ticket state hstate hpending, hpending⟩

theorem Advances.mem_waiting_iff (h : Advances number tab tab')
    (htranscribes : Transcribes number moves answered tab) :
    ticket ∈ tab'.waiting.map Waiting.ticket <->
      (tab'.stateAt ticket).isSome ∧ ¬ tab.Settled ticket := by
  rcases h.waiting with ⟨made, hmade, _, hmem⟩
  rw [hmade, List.map_append, List.mem_append, hmem,
    htranscribes.waiting_iff]
  constructor
  · rintro (hpending | ⟨hnone, hsome⟩)
    · refine ⟨?_, not_settled_of_pending hpending⟩
      rcases hpending with ⟨state, hstate, _⟩
      apply h.kept
      rw [hstate]
      rfl
    · refine ⟨hsome, ?_⟩
      rintro ⟨state, hstate, _⟩
      rw [hnone] at hstate
      cases hstate
  · rintro ⟨hsome, hsettled⟩
    rcases stateAt_cases tab ticket with hnone | hpending | hsettled'
    · exact Or.inr ⟨hnone, hsome⟩
    · exact Or.inl hpending
    · exact absurd hsettled' hsettled

theorem Advances.waitingOnce (h : Advances number tab tab')
    (htranscribes : Transcribes number moves answered tab) :
    (tab'.waiting.map Waiting.ticket).Nodup := by
  rcases h.waiting with ⟨made, hmade, hnodup, hmem⟩
  rw [hmade, List.map_append]
  apply List.Nodup.append htranscribes.waitingOnce hnodup
  intro ticket hbefore hmade
  rcases (htranscribes.waiting_iff ticket).mp hbefore with ⟨state, hstate, _⟩
  rw [((hmem ticket).mp hmade).left] at hstate
  cases hstate

/-!
## The checkpoint behind it
-/

theorem isWaiting_eq_not_settled {waiting : Waiting}
    (hsome : (tab.stateAt waiting.ticket).isSome) :
    (!tab.isWaiting waiting) = true <-> tab.Settled waiting.ticket := by
  unfold Tab.isWaiting Tab.Settled
  cases hstate : tab.stateAt waiting.ticket with
  | none =>
      rw [hstate] at hsome
      cases hsome
  | some state => simp

theorem isWaiting_iff {waiting : Waiting}
    (hsome : (tab.stateAt waiting.ticket).isSome) :
    tab.isWaiting waiting = true <-> tab.Pending waiting.ticket := by
  unfold Tab.isWaiting Tab.Pending
  cases hstate : tab.stateAt waiting.ticket with
  | none =>
      rw [hstate] at hsome
      cases hsome
  | some state => simp

def Tab.Made (tab : Tab) : Prop :=
  forall waiting : Waiting, waiting ∈ tab.waiting ->
    (tab.stateAt waiting.ticket).isSome

theorem mem_due_iff (hmade : tab.Made) : ticket ∈ tab.due.map Waiting.ticket <->
    ticket ∈ tab.waiting.map Waiting.ticket ∧ tab.Settled ticket := by
  unfold Tab.due
  constructor
  · intro hmem
    rcases List.mem_map.mp hmem with ⟨waiting, hdue, rfl⟩
    rcases List.mem_filter.mp hdue with ⟨hwaiting, hsettled⟩
    exact ⟨List.mem_map_of_mem hwaiting,
      (isWaiting_eq_not_settled (hmade waiting hwaiting)).mp hsettled⟩
  · rintro ⟨hmem, hsettled⟩
    rcases List.mem_map.mp hmem with ⟨waiting, hwaiting, rfl⟩
    exact List.mem_map_of_mem (List.mem_filter.mpr ⟨hwaiting,
      (isWaiting_eq_not_settled (hmade waiting hwaiting)).mpr hsettled⟩)

theorem mem_still_waiting_iff (hmade : tab.Made) :
    ticket ∈ (tab.waiting.filter tab.isWaiting).map Waiting.ticket <->
      ticket ∈ tab.waiting.map Waiting.ticket ∧ tab.Pending ticket := by
  constructor
  · intro hmem
    rcases List.mem_map.mp hmem with ⟨waiting, hstill, rfl⟩
    rcases List.mem_filter.mp hstill with ⟨hwaiting, hpending⟩
    exact ⟨List.mem_map_of_mem hwaiting,
      (isWaiting_iff (hmade waiting hwaiting)).mp hpending⟩
  · rintro ⟨hmem, hpending⟩
    rcases List.mem_map.mp hmem with ⟨waiting, hwaiting, rfl⟩
    exact List.mem_map_of_mem (List.mem_filter.mpr ⟨hwaiting,
      (isWaiting_iff (hmade waiting hwaiting)).mpr hpending⟩)

theorem Advances.answerTo_eq (h : Advances number tab tab')
    (hsettled : tab.Settled ticket) : tab'.answerTo ticket = tab.answerTo ticket := by
  rcases hsettled with ⟨state, hstate, hpending⟩
  unfold Tab.answerTo
  rw [hstate, h.settled ticket state hstate hpending]

theorem Advances.answerToDraw_eq (h : Advances number tab tab')
    {waiting : Waiting} (hsettled : tab.Settled waiting.ticket) :
    tab'.answerToDraw waiting = tab.answerToDraw waiting := by
  rcases hsettled with ⟨state, hstate, hpending⟩
  unfold Tab.answerToDraw
  rw [hstate, h.settled waiting.ticket state hstate hpending]

theorem Advances.made (h : Advances number tab tab')
    (htranscribes : Transcribes number moves answered tab) : tab'.Made :=
  fun _ hwaiting => ((h.mem_waiting_iff htranscribes).mp
    (List.mem_map_of_mem hwaiting)).left

theorem Advances.answered_iff (h : Advances number tab tab')
    (htranscribes : Transcribes number moves answered tab) :
    ticket ∈ (answered ++ tab'.due).map Waiting.ticket <->
      tab'.Settled ticket := by
  rw [List.map_append, List.mem_append, htranscribes.answered_iff,
    mem_due_iff (h.made htranscribes), h.mem_waiting_iff htranscribes]
  constructor
  · rintro (hbefore | ⟨_, hsettled⟩)
    · exact h.settled_of_settled hbefore
    · exact hsettled
  · intro hsettled
    by_cases hbefore : tab.Settled ticket
    · exact Or.inl hbefore
    · rcases hsettled with ⟨state, hstate, hpending⟩
      refine Or.inr ⟨⟨?_, hbefore⟩, state, hstate, hpending⟩
      rw [hstate]
      rfl

theorem Advances.answeredOnce (h : Advances number tab tab')
    (htranscribes : Transcribes number moves answered tab) :
    ((answered ++ tab'.due).map Waiting.ticket).Nodup := by
  have hdue : (tab'.due.map Waiting.ticket).Sublist
      (tab'.waiting.map Waiting.ticket) := List.filter_sublist.map _
  rw [List.map_append]
  apply List.Nodup.append htranscribes.answeredOnce
    (hdue.nodup (h.waitingOnce htranscribes))
  intro ticket hanswered hmem
  have hnot := ((h.mem_waiting_iff htranscribes).mp (hdue.mem hmem)).right
  exact hnot ((htranscribes.answered_iff ticket).mp hanswered)

theorem Transcribes.settled (h : Transcribes number moves answered tab)
    {waiting : Waiting} (hwaiting : waiting ∈ answered) :
    tab.Settled waiting.ticket :=
  (h.answered_iff waiting.ticket).mp (List.mem_map_of_mem hwaiting)

theorem Advances.answers_eq (h : Advances number tab tab')
    (htranscribes : Transcribes number moves answered tab) :
    (answered.filterMap fun waiting => tab'.answerTo waiting.ticket) =
      answered.filterMap fun waiting => tab.answerTo waiting.ticket :=
  List.filterMap_congr fun _ hwaiting =>
    h.answerTo_eq (htranscribes.settled hwaiting)

theorem Advances.answersToDraw_eq (h : Advances number tab tab')
    (htranscribes : Transcribes number moves answered tab) :
    answered.filterMap tab'.answerToDraw = answered.filterMap tab.answerToDraw :=
  List.filterMap_congr fun _ hwaiting =>
    h.answerToDraw_eq (htranscribes.settled hwaiting)

/-- The reactions that run are those of the calls that the move settled. -/
theorem Advances.mem_due_iff_settles (h : Advances number tab tab')
    (htranscribes : Transcribes number moves answered tab) :
    ticket ∈ tab'.due.map Waiting.ticket <->
      ¬ tab.Settled ticket ∧ tab'.Settled ticket := by
  rw [mem_due_iff (h.made htranscribes),
    h.mem_waiting_iff htranscribes]
  constructor
  · rintro ⟨⟨_, hbefore⟩, hafter⟩
    exact ⟨hbefore, hafter⟩
  · rintro ⟨hbefore, state, hstate, hsettled⟩
    refine ⟨⟨?_, hbefore⟩, state, hstate, hsettled⟩
    rw [hstate]
    rfl

theorem Advances.inOrder (h : Advances number tab tab')
    (htranscribes : Transcribes number moves answered tab)
    (hbefore : move.before = tab)
    (hafter : move.after = tab'.checkpoint number)
    (hone : OneCall move.before move.after) :
    Chronicle Settles (moves ++ [move])
      ((answered ++ tab'.due).map Waiting.ticket) := by
  have hsockets : move.after.sockets = tab'.sockets := by
    rw [hafter, sockets_checkpoint]
  have hdue : (tab'.due.map Waiting.ticket).Sublist
      (tab'.waiting.map Waiting.ticket) := List.filter_sublist.map _
  rw [List.map_append]
  apply htranscribes.inOrder.snoc
  · intro ticket
    rw [h.mem_due_iff_settles htranscribes]
    unfold Settles Tab.Settled
    rw [hbefore, stateAt_congr hsockets]
  · exact hdue.nodup (h.waitingOnce htranscribes)
  · exact settles_of_oneCall hone

theorem AskedIn.snoc {waiting : Waiting} (h : AskedIn moves waiting) :
    AskedIn (moves ++ [move]) waiting := by
  rcases h with ⟨other, hmem, hmakes, hdraws⟩
  exact ⟨other, List.mem_append_left _ hmem, hmakes, hdraws⟩

/-- What was made by the move is asked for by it, and the rest by another. -/
theorem Advances.asked (h : Advances number tab tab')
    (htranscribes : Transcribes number moves answered tab)
    (hbefore : move.before = tab)
    (hafter : move.after = tab'.checkpoint number)
    (henlists : Enlists move.action.draws tab tab') {waiting : Waiting}
    (hmem : waiting ∈ answered ++ tab'.waiting) :
    AskedIn (moves ++ [move]) waiting := by
  have hsockets : move.after.sockets = tab'.sockets := by
    rw [hafter, sockets_checkpoint]
  rcases h.waiting with ⟨made, hmade, _, hnew⟩
  rcases henlists with ⟨enlisted, henlisted, hdraws⟩
  have hsame : made = enlisted :=
    List.append_cancel_left (hmade.symm.trans henlisted)
  subst hsame
  rw [hmade, ← List.append_assoc] at hmem
  rcases List.mem_append.mp hmem with hold | hmem
  · exact (htranscribes.asked waiting hold).snoc
  · rcases (hnew waiting.ticket).mp (List.mem_map_of_mem hmem) with
      ⟨hnone, hsome⟩
    refine ⟨move, by simp, ⟨?_, ?_⟩, hdraws waiting hmem⟩
    · rw [hbefore]
      exact hnone
    · rw [stateAt_congr hsockets]
      exact hsome

theorem mem_of_mem_checkpoint {waiting : Waiting}
    (h : waiting ∈ (answered ++ tab.due) ++ (tab.checkpoint number).waiting) :
    waiting ∈ answered ++ tab.waiting := by
  rw [(checks_checkpoint tab).waiting] at h
  rcases List.mem_append.mp h with h | h
  · apply (List.mem_append.mp h).elim (List.mem_append_left _)
    exact fun hdue => List.mem_append_right _ (List.mem_filter.mp hdue).left
  · exact List.mem_append_right _ (List.mem_filter.mp h).left

theorem transcribes_checkpoint (h : Transcribes number moves answered tab)
    (hadvances : Advances number tab tab') (hbefore : move.before = tab)
    (hafter : move.after = tab'.checkpoint number)
    (hone : OneCall move.before move.after)
    (henlists : Enlists move.action.draws tab tab') :
    Transcribes number (moves ++ [move]) (answered ++ tab'.due)
      (tab'.checkpoint number) := by
  have hchecks : Checks number tab' (tab'.checkpoint number) :=
    checks_checkpoint tab'
  have hstate := stateAt_congr hchecks.sockets
  have hmade := hadvances.made h
  have hanswers : ((answered ++ tab'.due).filterMap fun waiting =>
      (tab'.checkpoint number).answerTo waiting.ticket) =
      (answered.filterMap fun waiting => tab.answerTo waiting.ticket) ++
        tab'.due.filterMap fun waiting => tab'.answerTo waiting.ticket := by
    simp only [answerTo_congr hchecks.sockets]
    rw [List.filterMap_append, hadvances.answers_eq h]
  rcases hadvances.writes with ⟨events, hwrites⟩
  have hlog : Writes number
      (tab'.due.filterMap fun waiting => tab'.answerTo waiting.ticket)
      (events ++ []) tab.logger (tab'.checkpoint number).logger :=
    hwrites.trans hchecks.writes
  constructor
  · exact hadvances.inOrder h hbefore hafter hone
  · intro waiting hmem
    exact hadvances.asked h hbefore hafter henlists
      (mem_of_mem_checkpoint hmem)
  · exact hadvances.answeredOnce h
  · intro ticket
    rw [hadvances.answered_iff h]
    unfold Tab.Settled
    rw [hstate]
  · rw [hchecks.waiting]
    exact (List.filter_sublist.map _).nodup (hadvances.waitingOnce h)
  · intro ticket
    rw [hchecks.waiting, mem_still_waiting_iff hmade]
    unfold Tab.Pending
    rw [hstate]
    constructor
    · exact And.right
    · intro hpending
      refine ⟨(hadvances.mem_waiting_iff h).mpr ⟨?_, fun hsettled => ?_⟩,
        hpending⟩
      · rcases hpending with ⟨state, hstate', _⟩
        rw [hstate']
        rfl
      · exact not_settled_of_pending hpending
          (hadvances.settled_of_settled hsettled)
  · rw [hlog.output, h.output, h.count, hanswers, answerLines_append,
      Nat.zero_add]
  · rw [hlog.count, h.count, hanswers, List.length_append]
  · rcases h.outevt with ⟨before, hbefore, hevtIdx⟩
    refine ⟨before ++ events, ?_, ?_⟩
    · rw [hlog.outevt, hbefore, hevtIdx, List.append_nil, eventLines_append,
        Nat.zero_add]
    · rw [hlog.evtIdx, hevtIdx, List.append_nil, List.length_append]
  · rw [hchecks.diagram, hadvances.diagram, h.diagram, List.filterMap_append,
      funext (answerToDraw_congr hchecks.sockets),
      hadvances.answersToDraw_eq h]
    unfold drawnAfter
    rw [List.foldl_append]

/-!
## Runs
-/

theorem transcribes_step {action : TabAction} {answer : Unit}
    (h : Transcribes number moves answered tab)
    (hstep : TabStep number tab action answer tab') :
    exists answered', Transcribes number
      (moves ++ [⟨tab, action, answer, tab'⟩]) answered' tab' := by
  have hone := oneCall_of_tabStep hstep
  cases hstep with
  | returned _ hrun =>
      exact ⟨_, transcribes_checkpoint h ((advances_perform action).ok hrun)
        rfl rfl hone ((enlists_perform action).ok hrun)⟩
  | thrown _ hrun =>
      exact ⟨_, transcribes_checkpoint h ((advances_perform action).error hrun)
        rfl rfl hone ((enlists_perform action).error hrun)⟩

theorem transcribes_of_run {urlWS : String}
    (hrun : Run (TabStep number) (Tab.fresh urlWS) moves tab) :
    exists answered, Transcribes number moves answered tab := by
  induction hrun with
  | nil => exact ⟨[], transcribes_fresh urlWS⟩
  | snoc _ hlast ih =>
      rcases ih with ⟨answered, htranscribes⟩
      exact transcribes_step htranscribes hlast

theorem Transcribes.partition (h : Transcribes number moves answered tab) :
    ((answered ++ tab.waiting).map Waiting.ticket).Nodup ∧
      forall ticket : Ticket,
        ticket ∈ (answered ++ tab.waiting).map Waiting.ticket <->
          (tab.stateAt ticket).isSome = true := by
  rw [List.map_append]
  constructor
  · apply List.Nodup.append h.answeredOnce h.waitingOnce
    intro ticket hanswered hwaiting
    exact not_settled_of_pending ((h.waiting_iff ticket).mp hwaiting)
      ((h.answered_iff ticket).mp hanswered)
  · intro ticket
    rw [List.mem_append, h.answered_iff, h.waiting_iff]
    constructor
    · rintro (⟨state, hstate, _⟩ | ⟨state, hstate, _⟩)
      · rw [hstate]
        rfl
      · rw [hstate]
        rfl
    · intro hsome
      rcases stateAt_cases tab ticket with hnone | hpending | hsettled
      · rw [hnone] at hsome
        cases hsome
      · exact Or.inr hpending
      · exact Or.inl hsettled

/--
Over every run the element output lists the settled calls in the order in which
they were settled, each once and with its own answer, the other calls have their
reactions waiting, and the drawings are those of the answers to
graphAGLBindings.
-/
theorem output_transcribes {urlWS : String}
    (hrun : Run (TabStep number) (Tab.fresh urlWS) moves tab) :
    exists answered, Transcribes number moves answered tab ∧
      ((answered ++ tab.waiting).map Waiting.ticket).Nodup ∧
      forall ticket : Ticket,
        ticket ∈ (answered ++ tab.waiting).map Waiting.ticket <->
          (tab.stateAt ticket).isSome = true := by
  rcases transcribes_of_run hrun with ⟨answered, htranscribes⟩
  exact ⟨answered, htranscribes, htranscribes.partition⟩

/-- Two calls, of which the first is answered and the second is cut off. -/
def answeredAndCutOff : List TabAction :=
  [TabAction.init, TabAction.opened 0, TabAction.graphAGLBindings,
    TabAction.message 0 ⟨retok, "2", some (Json.object [("response",
      Json.array [Json.object [("name", Json.string "gps")]])]), none⟩,
    TabAction.message 0 ⟨5, "xds/state", some Json.null, none⟩,
    TabAction.closed 0 true]

theorem exists_answeredAndCutOff :
    exists moves tab,
      Run (TabStep wholeNumber) (Tab.fresh "ws://target/api") moves tab ∧
        moves.map Move.action = answeredAndCutOff :=
  exists_run_of_isSome (by decide +kernel)

theorem output_transcribes_answeredAndCutOff :
    exists moves tab,
      Run (TabStep wholeNumber) (Tab.fresh "ws://target/api") moves tab ∧
        moves.map Move.action = answeredAndCutOff ∧
        exists answered, Transcribes wholeNumber moves answered tab ∧
          ((answered ++ tab.waiting).map Waiting.ticket).Nodup ∧
          forall ticket : Ticket,
            ticket ∈ (answered ++ tab.waiting).map Waiting.ticket <->
              (tab.stateAt ticket).isSome = true := by
  rcases exists_answeredAndCutOff with ⟨moves, tab, hrun, hactions⟩
  exact ⟨moves, tab, hrun, hactions, output_transcribes hrun⟩

end Console
end XdsService

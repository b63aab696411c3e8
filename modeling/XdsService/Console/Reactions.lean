import XdsService.Console.Tab
import XdsService.Graph.Answers

/-!
# What the reactions write

The reactions to an answer write one line and count it, unless the call was
rejected with nothing that could be written.  A checkpoint writes the lines of
the calls that were settled and draws what they ask for; it changes nothing
else.
-/

namespace XdsService
namespace Console

open Foundation
open Foundation.Coercion
open Foundation.Program
open XdsService.Graph
open Websock

variable {number : Int -> Int -> List Char}
variable {logger logger' logger'' : Logger} {tab tab' : Tab}

/-!
## Numbered lines
-/

def lines (logger : Logger) (element : Element) : List (List Char) :=
  (logger.appended.filter fun line => decide (line.1 = element)).map Prod.snd

/-- Texts as lines with a number, which counts from `k`, and a tag. -/
def numberedLines (tag : String) (k : Nat) (texts : List (List Char)) :
    List (List Char) :=
  (texts.zipIdx k).map fun entry => counted entry.2 tag ++ entry.1 ++ ['\n']

theorem numberedLines_append (tag : String) (k : Nat)
    (texts texts' : List (List Char)) :
    numberedLines tag k (texts ++ texts') =
      numberedLines tag k texts ++
        numberedLines tag (k + texts.length) texts' := by
  unfold numberedLines
  rw [List.zipIdx_append, List.map_append]

def answerLines (number : Int -> Int -> List Char) (k : Nat)
    (answers : List Json) : List (List Char) :=
  numberedLines ": OK: " k (answers.map (syntaxHighlight number))

def eventText (number : Int -> Int -> List Char) : Option Json -> List Char
  | some obj => Stringify.stringify number [] obj
  | none => undefinedText.toList

def eventLines (number : Int -> Int -> List Char) (k : Nat)
    (events : List (Option Json)) : List (List Char) :=
  numberedLines ": " k (events.map (eventText number))

theorem answerLines_append (k : Nat) (answers answers' : List Json) :
    answerLines number k (answers ++ answers') =
      answerLines number k answers ++
        answerLines number (k + answers.length) answers' := by
  unfold answerLines
  rw [List.map_append, numberedLines_append, List.length_map]

theorem eventLines_append (k : Nat) (events events' : List (Option Json)) :
    eventLines number k (events ++ events') =
      eventLines number k events ++
        eventLines number (k + events.length) events' := by
  unfold eventLines
  rw [List.map_append, numberedLines_append, List.length_map]

/-- The log goes on with lines for these answers and these events. -/
structure Writes (number : Int -> Int -> List Char) (answers : List Json)
    (events : List (Option Json)) (logger logger' : Logger) : Prop where
  output : lines logger' Element.output =
    lines logger Element.output ++ answerLines number logger.count answers
  count : logger'.count = logger.count + answers.length
  outevt : lines logger' Element.outevt =
    lines logger Element.outevt ++ eventLines number logger.evtIdx events
  evtIdx : logger'.evtIdx = logger.evtIdx + events.length
  urlWS : logger'.urlWS = logger.urlWS

theorem Writes.trans {answers answers' : List Json}
    {events events' : List (Option Json)}
    (h : Writes number answers events logger logger')
    (h' : Writes number answers' events' logger' logger'') :
    Writes number (answers ++ answers') (events ++ events') logger
      logger'' := by
  constructor
  · rw [h'.output, h.output, h.count, List.append_assoc, answerLines_append]
  · rw [h'.count, h.count, List.length_append, Nat.add_assoc]
  · rw [h'.outevt, h.outevt, h.evtIdx, List.append_assoc, eventLines_append]
  · rw [h'.evtIdx, h.evtIdx, List.length_append, Nat.add_assoc]
  · exact h'.urlWS.trans h.urlWS

theorem lines_write (logger : Logger) (element other : Element)
    (msg : List Char) :
    lines (logger.write element msg) other =
      lines logger other ++ if element = other then [msg ++ ['\n']] else [] := by
  unfold lines Logger.write
  rw [List.filter_append, List.map_append]
  by_cases h : element = other
  · simp [h]
  · simp [h]

@[simp] theorem lines_print (logger : Logger) (line : List Char)
    (value : Option Json) (element : Element) :
    lines (logger.print line value) element = lines logger element := rfl

theorem writes_of_lines
    (houtput : lines logger' Element.output = lines logger Element.output)
    (hcount : logger'.count = logger.count)
    (houtevt : lines logger' Element.outevt = lines logger Element.outevt)
    (hevtIdx : logger'.evtIdx = logger.evtIdx)
    (hurlWS : logger'.urlWS = logger.urlWS) :
    Writes number [] [] logger logger' where
  output := houtput.trans (List.append_nil _).symm
  count := hcount
  outevt := houtevt.trans (List.append_nil _).symm
  evtIdx := hevtIdx
  urlWS := hurlWS

theorem writes_nil (logger : Logger) : Writes number [] [] logger logger :=
  writes_of_lines rfl rfl rfl rfl rfl

theorem writes_print (logger : Logger) (line : List Char)
    (value : Option Json) :
    Writes number [] [] logger (logger.print line value) :=
  writes_of_lines rfl rfl rfl rfl rfl

theorem writes_command (logger : Logger) (api verb : String) (query : Json) :
    Writes number [] [] logger (logger.command number api verb query) := by
  unfold Logger.command
  apply writes_of_lines
  · rw [lines_write, if_neg Element.noConfusion, List.append_nil, lines_print]
  · rfl
  · rw [lines_write, if_neg Element.noConfusion, List.append_nil, lines_print]
  · rfl
  · rfl

theorem writes_eventLogged (logger : Logger) (event : Option Json) :
    Writes number [] [event] logger (eventLogged number logger event) := by
  cases event with
  | none =>
      constructor
      · show lines ((logger.print _ none).write Element.outevt _) _ = _
        rw [lines_write, if_neg Element.noConfusion]
        rfl
      · rfl
      · show lines ((logger.print _ none).write Element.outevt _) _ = _
        rw [lines_write, if_pos rfl]
        rfl
      · rfl
      · rfl
  | some obj =>
      constructor
      · show lines ((logger.print _ none).write Element.outevt _) _ = _
        rw [lines_write, if_neg Element.noConfusion]
        rfl
      · rfl
      · show lines ((logger.print _ none).write Element.outevt _) _ = _
        rw [lines_write, if_pos rfl]
        rfl
      · rfl
      · rfl

/-!
## One answer
-/

/-- What the reactions write for a promise; an exception is written as `{}`. -/
def loggedValue : PromiseState -> Option Json
  | PromiseState.pending => none
  | PromiseState.fulfilled (some obj) => some obj
  | PromiseState.fulfilled none => some (Json.object [])
  | PromiseState.rejected reason => loggedReason reason

theorem writes_reply (logger : Logger) (obj : Json) :
    Writes number [obj] [] logger
      { logger.reply number obj with count := logger.count + 1 } where
  output := by
    show lines (logger.reply number obj) Element.output = _
    unfold Logger.reply
    rw [lines_write, if_pos rfl, lines_print]
    rfl
  count := rfl
  outevt := by
    show lines (logger.reply number obj) Element.outevt = _
    unfold Logger.reply
    rw [lines_write, if_neg Element.noConfusion, lines_print]
    rfl
  evtIdx := rfl
  urlWS := rfl

theorem writes_react (logger : Logger) (state : PromiseState) :
    Writes number (loggedValue state).toList [] logger
      (react number logger state).1 := by
  cases state with
  | pending => exact writes_nil logger
  | fulfilled value =>
      cases value with
      | some obj => exact writes_reply logger obj
      | none =>
          have hprint : Writes number [] [] logger _ :=
            writes_print logger ("replyok:" ++ undefinedText).toList none
          exact hprint.trans (writes_reply _ (Json.object []))
  | rejected reason =>
      cases reason with
      | thrown => exact writes_reply logger (Json.object [])
      | answered ans =>
          cases ans with
          | some obj => exact writes_reply logger obj
          | none => exact writes_print logger _ none

/-!
## The checkpoint
-/

def Tab.answerTo (tab : Tab) (ticket : Ticket) : Option Json :=
  (tab.stateAt ticket).bind loggedValue

/-- What the function of `graphAGLBindings` gets of a promise, if it waits. -/
def valueToDraw (draws : Bool) : PromiseState -> Option (Option Json)
  | PromiseState.fulfilled (some obj) => if draws then some (some obj) else none
  | _ => none

def Tab.answerToDraw (tab : Tab) (waiting : Waiting) : Option (Option Json) :=
  (tab.stateAt waiting.ticket).bind (valueToDraw waiting.draws)

def Tab.due (tab : Tab) : List Waiting :=
  tab.waiting.filter fun waiting => !tab.isWaiting waiting

/-- The reactions of these calls ran, and nothing else happened. -/
structure Reacts (number : Int -> Int -> List Char) (answered : List Waiting)
    (tab tab' : Tab) : Prop where
  sockets : tab'.sockets = tab.sockets
  token : tab'.token = tab.token
  indicator : tab'.indicator = tab.indicator
  waiting : tab'.waiting = tab.waiting
  writes : Writes number
    (answered.filterMap fun waiting => tab.answerTo waiting.ticket) []
    tab.logger tab'.logger
  diagram : tab'.diagram =
    drawnAfter number tab.diagram (answered.filterMap tab.answerToDraw)

theorem stateAt_congr (h : tab'.sockets = tab.sockets) (ticket : Ticket) :
    tab'.stateAt ticket = tab.stateAt ticket := by
  unfold Tab.stateAt
  rw [h]

theorem answerTo_congr (h : tab'.sockets = tab.sockets) (ticket : Ticket) :
    tab'.answerTo ticket = tab.answerTo ticket := by
  unfold Tab.answerTo
  rw [stateAt_congr h]

theorem answerToDraw_congr (h : tab'.sockets = tab.sockets)
    (waiting : Waiting) :
    tab'.answerToDraw waiting = tab.answerToDraw waiting := by
  unfold Tab.answerToDraw
  rw [stateAt_congr h]

theorem Reacts.trans {tab'' : Tab} {answered answered' : List Waiting}
    (h : Reacts number answered tab tab')
    (h' : Reacts number answered' tab' tab'') :
    Reacts number (answered ++ answered') tab tab'' where
  sockets := h'.sockets.trans h.sockets
  token := h'.token.trans h.token
  indicator := h'.indicator.trans h.indicator
  waiting := h'.waiting.trans h.waiting
  writes := by
    have hwrites := h.writes.trans h'.writes
    simp only [answerTo_congr h.sockets] at hwrites
    rw [List.filterMap_append]
    exact hwrites
  diagram := by
    rw [h'.diagram, h.diagram, List.filterMap_append]
    unfold drawnAfter
    rw [List.foldl_append, funext (answerToDraw_congr h.sockets)]

theorem filterMap_singleton {α β : Type} (f : α -> Option β) (a : α) :
    [a].filterMap f = (f a).toList := by
  rw [List.filterMap_cons]
  cases f a with
  | none => rfl
  | some b => rfl

theorem drawn_react (tab : Tab) (logger : Logger) (draws : Bool)
    (state : PromiseState) :
    tab.drawn number draws (react number logger state).2 =
      { tab with diagram :=
        drawnAfter number tab.diagram (valueToDraw draws state).toList } := by
  cases state with
  | pending => rfl
  | fulfilled value =>
      cases value with
      | none => rfl
      | some obj =>
          cases draws with
          | true => rfl
          | false => rfl
  | rejected reason =>
      cases reason with
      | thrown => rfl
      | answered ans =>
          cases ans with
          | some obj => rfl
          | none => rfl

theorem reacts_runReactions (tab : Tab) (waiting : Waiting) :
    Reacts number [waiting] tab (tab.runReactions number waiting) := by
  have hanswer : tab.answerTo waiting.ticket =
      (tab.stateAt waiting.ticket).bind loggedValue := rfl
  have hdraw : tab.answerToDraw waiting =
      (tab.stateAt waiting.ticket).bind (valueToDraw waiting.draws) := rfl
  unfold Tab.runReactions
  cases hstate : tab.stateAt waiting.ticket with
  | none =>
      rw [hstate] at hanswer hdraw
      refine ⟨rfl, rfl, rfl, rfl, ?_, ?_⟩
      · rw [filterMap_singleton, hanswer]
        exact writes_nil tab.logger
      · rw [filterMap_singleton, hdraw]
        rfl
  | some state =>
      rw [hstate] at hanswer hdraw
      simp only
      rw [drawn_react]
      refine ⟨rfl, rfl, rfl, rfl, ?_, ?_⟩
      · rw [filterMap_singleton, hanswer]
        exact writes_react tab.logger state
      · rw [filterMap_singleton, hdraw]
        rfl

theorem reacts_foldl (answered : List Waiting) (tab : Tab) :
    Reacts number answered tab
      (answered.foldl (Tab.runReactions number) tab) := by
  induction answered generalizing tab with
  | nil => exact ⟨rfl, rfl, rfl, rfl, writes_nil tab.logger, rfl⟩
  | cons waiting rest ih =>
      exact (reacts_runReactions tab waiting).trans (ih _)

/-- What a checkpoint does. -/
structure Checks (number : Int -> Int -> List Char) (tab tab' : Tab) :
    Prop where
  sockets : tab'.sockets = tab.sockets
  token : tab'.token = tab.token
  indicator : tab'.indicator = tab.indicator
  waiting : tab'.waiting = tab.waiting.filter tab.isWaiting
  writes : Writes number
    (tab.due.filterMap fun waiting => tab.answerTo waiting.ticket) []
    tab.logger tab'.logger
  diagram : tab'.diagram =
    drawnAfter number tab.diagram (tab.due.filterMap tab.answerToDraw)

theorem checks_checkpoint (tab : Tab) :
    Checks number tab (tab.checkpoint number) := by
  have hreacts : Reacts number tab.due
      { tab with waiting := tab.waiting.filter tab.isWaiting }
      (tab.checkpoint number) := reacts_foldl _ _
  exact ⟨hreacts.sockets, hreacts.token, hreacts.indicator, hreacts.waiting,
    hreacts.writes, hreacts.diagram⟩

end Console
end XdsService

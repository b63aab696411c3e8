import XdsService.Console.Correlation

/-!
# Reading the log

The element output is markup, in which every answer stands as coloured JSON
text behind its number.  As long as no answer is a bare string, the text that
is shown determines the answers.
-/

namespace XdsService
namespace Console

open Foundation
open Foundation.JsonText
open Foundation.Markup
open Foundation.RoundTrip
open Foundation.Stringify
open Websock

variable {number : Int -> Int -> List Char} {refs : References}
variable {tab : Tab} {moves : List (Move Tab TabAction Unit)}
variable {answers : List Json} {value : Json}

/-!
## What is shown
-/

def shown (refs : References) (markup : List Char) : List Char :=
  refs.decode (wrappers.unwrap markup)

def twoBlanks : List Char := [' ', ' ']

/-- The text of a line for an answer. -/
def answerText (number : Int -> Int -> List Char) (k : Nat) (answer : Json) :
    List Char :=
  counted k ": OK: " ++ stringify number twoBlanks answer ++ ['\n']

theorem shown_plain {front : List Char} (h : Plain front) (rest : List Char) :
    shown refs (front ++ rest) = front ++ shown refs rest := by
  unfold shown
  rw [wrappers.unwrap_append h.opening_notMem,
    refs.decode_append h.amp_notMem]

theorem shown_highlight (text rest : List Char) :
    shown refs (highlight text ++ rest) = text ++ shown refs rest := by
  unfold shown
  rw [unwrap_highlight, decode_escaped_append]

theorem shown_line (k : Nat) (h : ¬ IsString value) (rest : List Char) :
    shown refs (counted k ": OK: " ++ syntaxHighlight number value ++ ['\n'] ++
      rest) = answerText number k value ++ shown refs rest := by
  have hfront : Plain (counted k ": OK: ") := plain_counted k (by decide)
  rw [syntaxHighlight_of_not_isString h, List.append_assoc, List.append_assoc,
    shown_plain hfront, shown_highlight, shown_plain plain_newline]
  unfold answerText
  rw [List.append_assoc, List.append_assoc]
  rfl

theorem shown_answerLines (k : Nat)
    (h : forall answer, answer ∈ answers -> ¬ IsString answer) :
    shown refs (answerLines number k answers).flatten =
      ((answers.zipIdx k).map fun entry =>
        answerText number entry.2 entry.1).flatten := by
  induction answers generalizing k with
  | nil => exact refs.decode_nil
  | cons answer rest ih =>
      have hrest := ih (k + 1) fun other hmem =>
        h other (List.mem_cons_of_mem _ hmem)
      show shown refs (counted k ": OK: " ++ syntaxHighlight number answer ++
        ['\n'] ++ (answerLines number (k + 1) rest).flatten) = _
      rw [shown_line k (h answer List.mem_cons_self), hrest]
      rfl

/-!
## A reader
-/

/-- The values in numbered lines of JSON text, which count from `k`. -/
def readAnswers : Nat -> Nat -> List Char -> Option (List Json)
  | _, _, [] => some []
  | 0, _, _ => none
  | rounds + 1, k, text => do
      let line <- text.dropPrefix? (counted k ": OK: ")
      let value <- readValue (line.length + 1) line
      let rest <- value.2.dropPrefix? ['\n']
      let values <- readAnswers rounds (k + 1) rest
      some (value.1 :: values)

theorem dropPrefix_append (front rest : List Char) :
    (front ++ rest).dropPrefix? front = some rest :=
  List.dropPrefix?_append_of_beq rest (beq_self_eq_true front)

theorem readValue_answerText (h : Readable number value) (rest : List Char)
    (depth : Nat)
    (hdepth : (stringify number twoBlanks value).length ≤ depth) :
    readValue depth (stringify number twoBlanks value ++ ('\n' :: rest)) =
      some (value, '\n' :: rest) := by
  have hgap : Spaces twoBlanks := by
    intro c hc
    rw [List.eq_of_mem_replicate (n := 2) hc]
    rfl
  apply readsAs_stringifyAt hgap value spaces_nil h depth _ hdepth
  exact endsNumber_cons rest (by decide)

theorem readAnswers_of_ne (rounds k : Nat) {text : List Char}
    (h : text ≠ []) :
    readAnswers (rounds + 1) k text = (do
      let line <- text.dropPrefix? (counted k ": OK: ")
      let value <- readValue (line.length + 1) line
      let rest <- value.2.dropPrefix? ['\n']
      let values <- readAnswers rounds (k + 1) rest
      some (value.1 :: values)) := by
  cases text with
  | nil => exact absurd rfl h
  | cons c cs => rfl

theorem readAnswers_cons (rounds k : Nat) (h : Readable number value)
    (rest : List Char) :
    readAnswers (rounds + 1) k (answerText number k value ++ rest) =
      (readAnswers rounds (k + 1) rest).map fun values => value :: values := by
  have htext : answerText number k value ++ rest =
      counted k ": OK: " ++ (stringify number twoBlanks value ++
        ('\n' :: rest)) := by
    simp [answerText]
  have hline := dropPrefix_append (counted k ": OK: ")
    (stringify number twoBlanks value ++ ('\n' :: rest))
  have hvalue := readValue_answerText h rest
    ((stringify number twoBlanks value ++ ('\n' :: rest)).length + 1)
    (by rw [List.length_append]; omega)
  have hrest : ('\n' :: rest).dropPrefix? ['\n'] = some rest :=
    dropPrefix_append ['\n'] rest
  have hne : counted k ": OK: " ++ (stringify number twoBlanks value ++
      ('\n' :: rest)) ≠ [] := by
    simp
  rw [htext, readAnswers_of_ne rounds k hne, hline, Option.bind_eq_bind,
    Option.bind_some, hvalue]
  show (('\n' :: rest).dropPrefix? ['\n']).bind (fun rest =>
    (readAnswers rounds (k + 1) rest).bind fun values =>
      some (value :: values)) = _
  rw [hrest, Option.bind_some]
  cases readAnswers rounds (k + 1) rest with
  | none => rfl
  | some values => rfl

theorem readAnswers_texts (k : Nat)
    (h : forall answer, answer ∈ answers -> Readable number answer) :
    readAnswers answers.length k ((answers.zipIdx k).map fun entry =>
      answerText number entry.2 entry.1).flatten = some answers := by
  induction answers generalizing k with
  | nil => rfl
  | cons answer rest ih =>
      have hrest := ih (k + 1) fun other hmem =>
        h other (List.mem_cons_of_mem _ hmem)
      rw [List.zipIdx_cons, List.map_cons, List.flatten_cons, List.length_cons,
        readAnswers_cons _ _ (h answer List.mem_cons_self), hrest]
      rfl

/-!
## Where the answers come from
-/

/-- Answers bring values that can be read, and no bare strings. -/
def ReadableAnswers (number : Int -> Int -> List Char)
    (moves : List (Move Tab TabAction Unit)) : Prop :=
  forall move, move ∈ moves -> forall (i : Nat) (m : Message) (answer : Json),
    move.action = TabAction.message i m -> m.IsReply -> m.ans = some answer ->
      Readable number answer ∧ ¬ IsString answer

theorem loggedValue_answerState {m : Message} {answer : Json}
    (h : loggedValue (answerState m) = some answer) :
    answer = Json.object [] ∨ m.ans = some answer := by
  unfold answerState at h
  split at h
  · cases hans : m.ans with
    | none =>
        rw [hans] at h
        exact Or.inl (Option.some.inj h).symm
    | some obj =>
        rw [hans] at h
        exact Or.inr h
  · exact Or.inr h

/-- An answer that is logged came with a message, or is an exception's `{}`. -/
theorem answer_of_correlates {ticket : Ticket} {state : PromiseState}
    {answer : Json} (h : Correlates moves ticket state)
    (hlogged : loggedValue state = some answer) :
    answer = Json.object [] ∨ exists move i m, move ∈ moves ∧
      move.action = TabAction.message i m ∧ m.IsReply ∧
        m.ans = some answer := by
  rcases h with ⟨earlier, first, later, counter, rfl, _, houtcome⟩
  cases houtcome with
  | thrown _ => exact Or.inl (Option.some.inj hlogged).symm
  | pending _ _ => cases hlogged
  | @answered move m _ hfirst haction =>
      apply (loggedValue_answerState hlogged).imp_right
      intro hans
      have hanswers := hfirst.holds
      rw [haction] at hanswers
      refine ⟨move, ticket.socket, m, ?_, haction, hanswers.right.left, hans⟩
      apply List.mem_append_right
      exact List.mem_cons_of_mem _ hfirst.mem

theorem readable_answerTo {urlWS : String}
    (hrun : Run (TabStep number) (Tab.fresh urlWS) moves tab)
    (hanswers : ReadableAnswers number moves) {ticket : Ticket} {answer : Json}
    (h : tab.answerTo ticket = some answer) :
    Readable number answer ∧ ¬ IsString answer := by
  rcases Option.bind_eq_some_iff.mp h with ⟨state, hstate, hlogged⟩
  have hcorrelates := correlates_of_run rfl hrun hstate
  rcases answer_of_correlates hcorrelates hlogged with
    rfl | ⟨move, i, m, hmem, haction, hreply, hans⟩
  · refine ⟨trivial, ?_⟩
    rintro ⟨text, htext⟩
    cases htext
  · exact hanswers move hmem i m answer haction hreply hans

/--
Over every run in which no answer is a bare string, what the element output
shows as a whole reads back as the answers of all settled calls, in the order in
which they were settled.
-/
theorem output_read_back {urlWS : String} (refs : References)
    (hrun : Run (TabStep number) (Tab.fresh urlWS) moves tab)
    (hanswers : ReadableAnswers number moves) :
    exists answered : List Ticket,
      Chronicle Settles moves answered ∧ answered.Nodup ∧
        (forall ticket, ticket ∈ answered <-> tab.Settled ticket) ∧
        readAnswers tab.logger.count 0
            (shown refs (lines tab.logger Element.output).flatten) =
          some (answered.filterMap tab.answerTo) := by
  rcases transcribes_of_run hrun with ⟨answered, htranscribes⟩
  have hreadable : forall answer, answer ∈ (answered.filterMap fun waiting =>
      tab.answerTo waiting.ticket) ->
        Readable number answer ∧ ¬ IsString answer := by
    intro answer hmem
    rcases List.mem_filterMap.mp hmem with ⟨waiting, _, hanswer⟩
    exact readable_answerTo hrun hanswers hanswer
  refine ⟨answered.map Waiting.ticket, htranscribes.inOrder,
    htranscribes.answeredOnce, htranscribes.answered_iff, ?_⟩
  rw [htranscribes.output, htranscribes.count,
    shown_answerLines 0 fun answer hmem => (hreadable answer hmem).right,
    List.filterMap_map]
  exact readAnswers_texts 0 fun answer hmem => (hreadable answer hmem).left

theorem readableAnswers_answeredAndCutOff
    (h : moves.map Move.action = answeredAndCutOff) :
    ReadableAnswers wholeNumber moves := by
  intro move hmem i m answer haction hreply hans
  have hlisted : TabAction.message i m ∈ answeredAndCutOff := by
    rw [← h, ← haction]
    exact List.mem_map_of_mem hmem
  simp only [answeredAndCutOff, List.mem_cons, List.not_mem_nil, or_false,
    reduceCtorEq, false_or, TabAction.message.injEq] at hlisted
  rcases hlisted with ⟨_, rfl⟩ | ⟨_, rfl⟩
  · cases hans
    exact ⟨⟨⟨⟨trivial, trivial⟩, trivial⟩, trivial⟩, fun h => by
      rcases h with ⟨text, htext⟩
      cases htext⟩
  · rcases hreply with hcode | hcode
    · cases hcode
    · cases hcode

theorem output_read_back_answeredAndCutOff :
    exists moves tab,
      Run (TabStep wholeNumber) (Tab.fresh "ws://target/api") moves tab ∧
        moves.map Move.action = answeredAndCutOff ∧
        exists answered : List Ticket,
          Chronicle Settles moves answered ∧ answered.Nodup ∧
            (forall ticket, ticket ∈ answered <-> tab.Settled ticket) ∧
            readAnswers tab.logger.count 0
                (shown basicReferences
                  (lines tab.logger Element.output).flatten) =
              some (answered.filterMap tab.answerTo) := by
  rcases exists_answeredAndCutOff with ⟨moves, tab, hrun, hactions⟩
  exact ⟨moves, tab, hrun, hactions, output_read_back basicReferences hrun
    (readableAnswers_answeredAndCutOff hactions)⟩

end Console
end XdsService

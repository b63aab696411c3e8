import XdsService.Foundation.Markup
import XdsService.Foundation.Properties
import XdsService.Foundation.Regex
import XdsService.Foundation.Stringify

/-!
# The log of the page

The page shows what it sends and receives by appending it to the markup of its
elements.  `syntaxHighlight` escapes a text and wraps what it recognises in it;
`log.event` is the one writer that does without.
-/

namespace XdsService
namespace Websock

open Foundation
open Foundation.Markup
open Foundation.Stringify

/-!
## The pattern of syntaxHighlight
-/

section Pattern

open Regex

/-- `\s` -/
def isBlank (c : Char) : Bool :=
  decide (c.toNat ∈ [9, 10, 11, 12, 13, 32, 160, 5760, 8232, 8233, 8239, 8287,
    12288, 65279]) || decide (8192 ≤ c.toNat ∧ c.toNat ≤ 8202)

/-- `\\u[a-zA-Z0-9]{4}|\\[^u]|[^\\"]` -/
def quotedRegex : Regex :=
  alt (concat [char '\\', char 'u', times (chars Char.isAlphanum) 4])
    (alt (concat [char '\\', chars fun c => decide (c ≠ 'u')])
      (chars fun c => decide (c ≠ '\\' ∧ c ≠ '"')))

/-- `"(..)*"(\s*:)?` -/
def stringRegex : Regex :=
  concat [char '"', star quotedRegex, char '"',
    opt (concat [star (chars isBlank), char ':'])]

/-- `\b(true|false|null)\b` -/
def literalRegex : Regex :=
  concat [boundary,
    alt (word "true".toList) (alt (word "false".toList) (word "null".toList)),
    boundary]

/-- `-?\d+(?:\.\d*)?(?:[eE][+\-]?\d+)?` -/
def numberRegex : Regex :=
  concat [opt (char '-'), plus (chars Char.isDigit),
    opt (concat [char '.', star (chars Char.isDigit)]),
    opt (concat [chars fun c => decide (c = 'e' ∨ c = 'E'),
      opt (chars fun c => decide (c = '+' ∨ c = '-')),
      plus (chars Char.isDigit)])]

def highlightRegex : Regex :=
  alt stringRegex (alt literalRegex numberRegex)

end Pattern

/-!
## The wrappers
-/

inductive Cls where
  | number
  | key
  | string
  | boolean
  | null
deriving DecidableEq, Repr

def Cls.name : Cls -> List Char
  | number => "number".toList
  | key => "key".toList
  | string => "string".toList
  | boolean => "boolean".toList
  | null => "null".toList

def cls (m : List Char) : Cls :=
  if m.head? = some '"' then
    if m.getLast? = some ':' then Cls.key else Cls.string
  else if "true".toList <:+: m ∨ "false".toList <:+: m then
    Cls.boolean
  else if "null".toList <:+: m then
    Cls.null
  else
    Cls.number

def openTag (c : Cls) : List Char :=
  "<span class=\"".toList ++ c.name ++ "\">".toList

def closeTag : List Char := "</span>".toList

/-- The function that `replace` calls with a match. -/
def wrap (m : List Char) : List Char := openTag (cls m) ++ m ++ closeTag

def wrapperTags : List (List Char) :=
  [closeTag, openTag Cls.number, openTag Cls.key, openTag Cls.string,
    openTag Cls.boolean, openTag Cls.null]

theorem openTag_mem_wrapperTags (c : Cls) : openTag c ∈ wrapperTags := by
  cases c <;> simp [wrapperTags]

theorem closeTag_mem_wrapperTags : closeTag ∈ wrapperTags :=
  List.mem_cons_self

theorem opens_of_mem_wrapperTags {tag : List Char} (h : tag ∈ wrapperTags) :
    exists rest, tag = '<' :: rest := by
  have hheads : forall tag, tag ∈ wrapperTags -> tag.head? = some '<' := by
    decide +kernel
  exact List.head?_eq_some_iff.mp (hheads tag h)

def wrappers : Tags where
  tags := wrapperTags
  opens := fun _ h => opens_of_mem_wrapperTags h
  prefixFree := by decide +kernel

/-!
## syntaxHighlight
-/

/-- The three replacements before the text is marked up. -/
def escape (text : List Char) : List Char :=
  Regex.replaceAll (Regex.char '>') (fun _ => "&gt;".toList)
    (Regex.replaceAll (Regex.char '<') (fun _ => "&lt;".toList)
      (Regex.replaceAll (Regex.char '&') (fun _ => "&amp;".toList) text))

def highlight (text : List Char) : List Char :=
  Regex.replaceAll highlightRegex wrap (escape text)

/-!
## The writers
-/

inductive Element where
  | question
  | outevt
  | output
deriving DecidableEq, Repr

structure Logger where
  urlWS : String
  count : Nat
  evtIdx : Nat
  /-- the texts handed to `console.log`, with the value behind it if any -/
  console : List (List Char × Option Json)
  /-- what was appended to `innerHTML`, and of which element -/
  appended : List (Element × List Char)

/-- `console.log` -/
def Logger.print (logger : Logger) (line : List Char) (value : Option Json) :
    Logger :=
  { logger with console := logger.console ++ [(line, value)] }

def Logger.write (logger : Logger) (element : Element) (msg : List Char) :
    Logger :=
  { logger with appended := logger.appended ++ [(element, msg ++ ['\n'])] }

/-- A counter, and what stands between it and the text. -/
def counted (n : Nat) (tag : String) : List Char :=
  (indexName n).toList ++ tag.toList

section Writers

variable (number : Int -> Int -> List Char)

/-- `syntaxHighlight`; a string is taken as the text itself. -/
def syntaxHighlight : Json -> List Char
  | Json.string text => highlight text.toList
  | json => highlight (stringify number [' ', ' '] json)

def question (logger : Logger) (api verb : String) (query : Json) : String :=
  logger.urlWS ++ "/" ++ api ++ "/" ++ verb ++ "?query=" ++
    String.ofList (stringify number [] query)

def Logger.command (logger : Logger) (api verb : String) (query : Json) :
    Logger :=
  (logger.print
    ("subscribe api=" ++ api ++ " verb=" ++ verb ++ " query=").toList
    (some query)).write Element.question
      (counted logger.count ": " ++ syntaxHighlight number
        (Json.string (question number logger api verb query)))

def Logger.event (logger : Logger) (obj : Json) : Logger :=
  { (logger.print ("gotevent:".toList ++ stringify number [] obj) none).write
      Element.outevt
      (counted logger.evtIdx ": " ++ stringify number [] obj) with
    evtIdx := logger.evtIdx + 1 }

def Logger.reply (logger : Logger) (obj : Json) : Logger :=
  (logger.print ("replyok:".toList ++ stringify number [] obj) none).write
    Element.output
    (counted logger.count ": OK: " ++ syntaxHighlight number obj)

def Logger.error (logger : Logger) (obj : Json) : Logger :=
  (logger.print ("replyerr:".toList ++ stringify number [] obj) none).write
    Element.output
    (counted logger.count ": ERROR: " ++ syntaxHighlight number obj)

end Writers

/-!
## What is promised
-/

inductive Entry where
  | command (api verb : String) (query : Json)
  | event (obj : Json)
  | reply (obj : Json)
  | error (obj : Json)

namespace Entry

variable (number : Int -> Int -> List Char)

def perform (logger : Logger) : Entry -> Logger
  | command api verb query => logger.command number api verb query
  | event obj => logger.event number obj
  | reply obj => logger.reply number obj
  | error obj => logger.error number obj

def text (logger : Logger) : Entry -> List Char
  | command api verb query => counted logger.count ": " ++
      ((question number logger api verb query).toList ++ ['\n'])
  | event obj =>
      counted logger.evtIdx ": " ++ (stringify number [] obj ++ ['\n'])
  | reply obj => counted logger.count ": OK: " ++
      (stringify number [' ', ' '] obj ++ ['\n'])
  | error obj => counted logger.count ": ERROR: " ++
      (stringify number [' ', ' '] obj ++ ['\n'])

end Entry

/--
What is appended for the entry holds no markup but the wrappers, and without
them reads as the text of the entry.
-/
def ShowsText (number : Int -> Int -> List Char) (refs : References)
    (logger : Logger) (entry : Entry) : Prop :=
  exists element markup,
    (entry.perform number logger).appended =
        logger.appended ++ [(element, markup)] ∧
      Shows wrappers refs markup (entry.text number logger)

def IsString (json : Json) : Prop := exists text, json = Json.string text

/--
The JSON text of an event has nothing that is special in markup, and the payload
of a reply or an error is no string.
-/
def Showable (number : Int -> Int -> List Char) (refs : References) :
    Entry -> Prop
  | Entry.command _ _ _ => True
  | Entry.event obj => MarkupFree refs (stringify number [] obj ++ ['\n'])
  | Entry.reply obj => ¬ IsString obj
  | Entry.error obj => ¬ IsString obj

/-!
## What is highlighted is shown
-/

theorem escape_eq_escaped (text : List Char) : escape text = escaped text := by
  unfold escape escaped
  rw [Regex.replaceAll_char, Regex.replaceAll_char, Regex.replaceAll_char,
    List.flatMap_assoc, List.flatMap_assoc]
  congr 1
  funext c
  unfold entity
  by_cases hamp : c = '&'
  · simp [hamp]
  by_cases hlt : c = '<'
  · simp [hlt]
  by_cases hgt : c = '>'
  · simp [hgt]
  simp [hamp, hlt, hgt]

theorem unwrap_wrap (m rest : List Char) (h : '<' ∉ m) :
    wrappers.unwrap (wrap m ++ rest) = m ++ wrappers.unwrap rest := by
  unfold wrap
  rw [List.append_assoc, List.append_assoc,
    wrappers.unwrap_tag (openTag_mem_wrapperTags (cls m)),
    wrappers.unwrap_append h, wrappers.unwrap_tag closeTag_mem_wrapperTags]

/-- However a text is cut into pieces, without the wrappers it is whole again. -/
theorem unwrap_replaced (found : List Regex.Piece) (rest : List Char)
    (h : '<' ∉ found.flatMap Regex.Piece.text) :
    wrappers.unwrap (found.flatMap (Regex.Piece.replaced wrap) ++ rest) =
      found.flatMap Regex.Piece.text ++ wrappers.unwrap rest := by
  induction found with
  | nil => rfl
  | cons piece found ih =>
      rw [List.flatMap_cons, List.mem_append, not_or] at h
      rw [List.flatMap_cons, List.flatMap_cons, List.append_assoc,
        List.append_assoc, ← ih h.right]
      cases piece with
      | kept c => exact wrappers.unwrap_append h.left _
      | matched m => exact unwrap_wrap m _ h.left

theorem unwrap_highlight (text rest : List Char) :
    wrappers.unwrap (highlight text ++ rest) =
      escaped text ++ wrappers.unwrap rest := by
  have htext := Regex.text_pieces highlightRegex (escaped text)
  have hnot := opening_notMem_escaped text
  unfold highlight Regex.replaceAll
  rw [escape_eq_escaped, unwrap_replaced, htext]
  rw [htext]
  exact hnot

example : highlight "\"a\": <true".toList =
    ("<span class=\"key\">\"a\":</span> " ++
      "&lt;<span class=\"boolean\">true</span>").toList := by
  decide +kernel

theorem entity_of_isDigit {c : Char} (h : c.isDigit = true) :
    entity c = [c] := by
  apply entity_of_ne
  · rintro rfl
    cases h
  · rintro rfl
    cases h
  · rintro rfl
    cases h

theorem plain_counted (n : Nat) {tag : String} (htag : Plain tag.toList) :
    Plain (counted n tag) := by
  intro c hc
  rcases List.mem_append.mp hc with hdigit | hmem
  · exact entity_of_isDigit (isDigit_of_mem_indexName hdigit)
  · exact htag c hmem

theorem plain_newline : Plain ['\n'] := by
  decide

section Shows

variable {number : Int -> Int -> List Char} {refs : References}
variable {front : List Char}

theorem shows_highlight (hfront : Plain front) (text : List Char) :
    Shows wrappers refs (front ++ highlight text ++ ['\n'])
      (front ++ (text ++ ['\n'])) := by
  apply shows_of_unwrap hfront plain_newline
  rw [List.append_assoc, wrappers.unwrap_append hfront.opening_notMem,
    unwrap_highlight, wrappers.unwrap_of_notMem plain_newline.opening_notMem]

theorem syntaxHighlight_of_not_isString {obj : Json} (h : ¬ IsString obj) :
    syntaxHighlight number obj =
      highlight (stringify number [' ', ' '] obj) := by
  cases obj with
  | string text => exact absurd ⟨text, rfl⟩ h
  | _ => rfl

/-- A value is shown by its JSON text, unless it is a string. -/
theorem shows_syntaxHighlight_iff (hfront : Plain front) (obj : Json) :
    Shows wrappers refs (front ++ syntaxHighlight number obj ++ ['\n'])
        (front ++ (stringify number [' ', ' '] obj ++ ['\n'])) <->
      ¬ IsString obj := by
  constructor
  · rintro hshows ⟨text, rfl⟩
    have htext : Shows wrappers refs
        (front ++ syntaxHighlight number (Json.string text) ++ ['\n'])
        (front ++ (text.toList ++ ['\n'])) :=
      shows_highlight hfront text.toList
    have hsame : text.toList = quote text :=
      List.append_cancel_right
        (List.append_cancel_left (htext.unique hshows))
    have hlonger := length_lt_length_quote text
    rw [← hsame] at hlonger
    exact Nat.lt_irrefl _ hlonger
  · intro h
    rw [syntaxHighlight_of_not_isString h]
    exact shows_highlight hfront _

variable {logger : Logger} {entry : Entry}

theorem showsText_iff_of_appended {element : Element} {markup : List Char}
    (h : (entry.perform number logger).appended =
      logger.appended ++ [(element, markup)]) :
    ShowsText number refs logger entry <->
      Shows wrappers refs markup (entry.text number logger) := by
  constructor
  · rintro ⟨element', markup', h', hshows⟩
    rw [h] at h'
    cases List.append_cancel_left h'
    exact hshows
  · intro hshows
    exact ⟨element, markup, h, hshows⟩

theorem showsText_event_iff (obj : Json) :
    ShowsText number refs logger (Entry.event obj) <->
      MarkupFree refs (stringify number [] obj ++ ['\n']) := by
  have hfront : Plain (counted logger.evtIdx ": ") :=
    plain_counted logger.evtIdx (by decide)
  rw [showsText_iff_of_appended rfl, List.append_assoc]
  exact (shows_self_iff wrappers refs _).trans
    (markupFree_append_iff hfront _)

end Shows

/--
An entry is shown as its text, without any markup of its own, exactly if it is
a command, or a reply or an error that is no string, or an event in whose JSON
text nothing is special in markup.
-/
theorem shows_text_iff (number : Int -> Int -> List Char) (refs : References)
    (logger : Logger) (entry : Entry) :
    ShowsText number refs logger entry <-> Showable number refs entry := by
  cases entry with
  | command api verb query =>
      rw [showsText_iff_of_appended rfl]
      exact iff_of_true
        (shows_highlight (plain_counted logger.count (by decide)) _) trivial
  | event obj => exact showsText_event_iff obj
  | reply obj =>
      rw [showsText_iff_of_appended rfl]
      exact shows_syntaxHighlight_iff
        (plain_counted logger.count (by decide)) obj
  | error obj =>
      rw [showsText_iff_of_appended rfl]
      exact shows_syntaxHighlight_iff
        (plain_counted logger.count (by decide)) obj

/-- Reads the three references that are used to write a text, and no others. -/
def readBasic (behind : List Char) : Option (List Char × List Char) :=
  if ['a', 'm', 'p', ';'].isPrefixOf behind then some (['&'], behind.drop 4)
  else if ['l', 't', ';'].isPrefixOf behind then some (['<'], behind.drop 3)
  else if ['g', 't', ';'].isPrefixOf behind then some (['>'], behind.drop 3)
  else none

theorem readBasic_shorter (behind value rest : List Char)
    (h : readBasic behind = some (value, rest)) :
    value.length + rest.length ≤ behind.length := by
  have hcut : forall {name : List Char} {c : Char} {n : Nat},
      name.isPrefixOf behind = true -> name.length = n + 1 ->
      [c].length + (behind.drop (n + 1)).length ≤ behind.length := by
    intro name c n hprefix hlength
    have hle := (List.isPrefixOf_iff_prefix.mp hprefix).length_le
    rw [List.length_drop, List.length_singleton]
    omega
  unfold readBasic at h
  split at h
  · rename_i hprefix
    cases h
    exact hcut hprefix rfl
  split at h
  · rename_i hprefix
    cases h
    exact hcut hprefix rfl
  split at h
  · rename_i hprefix
    cases h
    exact hcut hprefix rfl
  · cases h

def basicReferences : References where
  reads := readBasic
  amp := fun _ => rfl
  lt := fun _ => rfl
  gt := fun _ => rfl
  shorter := readBasic_shorter

def wholeNumber (mantissa _exponent : Int) : List Char :=
  (toString mantissa).toList

def Logger.fresh (urlWS : String) : Logger := ⟨urlWS, 0, 0, [], []⟩

/-- The data of an event become markup of the page. -/
theorem event_appends_markup :
    ((Entry.event (Json.object [("data", Json.string "<b>")])).perform
        wholeNumber (Logger.fresh "ws://xds")).appended =
      [(Element.outevt, "0: \x7b\"data\":\"<b>\"\x7d\n".toList)] ∧
    ¬ ShowsText wholeNumber basicReferences (Logger.fresh "ws://xds")
      (Entry.event (Json.object [("data", Json.string "<b>")])) := by
  constructor
  · decide +kernel
  · rw [showsText_event_iff]
    intro hfree
    exact hfree.opening (by decide +kernel)

end Websock
end XdsService

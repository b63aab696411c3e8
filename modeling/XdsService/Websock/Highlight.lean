import XdsService.Websock.Tokens

/-!
# Highlighted values

The pattern of `syntaxHighlight` knows nothing of the structure of a text.  In
the text of a value it matches the names and the leaves one by one, each as a
whole, and what lies between them stays as it is.
-/

namespace XdsService
namespace Websock

open Foundation
open Foundation.Markup
open Foundation.Regex
open Foundation.RoundTrip
open Foundation.Stringify

variable {before : Option Char} {text rest : List Char} {c : Char}

/-!
## Marked values
-/

def mark (c : Cls) (text : List Char) : List Char :=
  openTag c ++ text ++ closeTag

/-- A number that is not finite is written as null. -/
def numberCls (text : List Char) : Cls :=
  if text = "null".toList then Cls.null else Cls.number

section Marked

variable (number : Int -> Int -> List Char)

mutual

/-- The text of a value in which every name and every leaf is marked. -/
def markedAt (indent : List Char) : Json -> List Char
  | Json.null => mark Cls.null "null".toList
  | Json.bool value =>
      mark Cls.boolean (if value then "true".toList else "false".toList)
  | Json.int value => mark (numberCls (number value 0)) (number value 0)
  | Json.double mantissa exponent =>
      mark (numberCls (number mantissa exponent)) (number mantissa exponent)
  | Json.string value => mark Cls.string (escaped (quote value))
  | Json.array items =>
      bracketed '[' ']' [' ', ' '] indent
        (markedItems (indent ++ [' ', ' ']) items)
  | Json.object members =>
      bracketed '\x7b' '\x7d' [' ', ' '] indent
        (markedMembers (indent ++ [' ', ' ']) members)

def markedItems (indent : List Char) : List Json -> List (List Char)
  | [] => []
  | item :: rest => markedAt indent item :: markedItems indent rest

def markedMembers (indent : List Char) :
    List (String × Json) -> List (List Char)
  | [] => []
  | (name, value) :: rest =>
      (mark Cls.key (escaped (quote name) ++ [':']) ++
        ' ' :: markedAt indent value) :: markedMembers indent rest

end

end Marked

/-!
## What is between the tokens
-/

/-- What `replace` makes of the text behind a place. -/
def recolour (before : Option Char) (text : List Char) : List Char :=
  replaceFrom highlightRegex wrap before text

/-- The characters between the names and the leaves of a value. -/
def layout : List Char :=
  [' ', '\t', '\n', '\r', ',', '[', ']', '\x7b', '\x7d']

theorem refuses_highlight (h : forall c, text.head? = some c -> c ∈ layout) :
    Refuses highlightRegex before text := by
  have hlayout : forall c, c ∈ layout -> c ≠ '"' ∧ c ∉ ['t', 'f', 'n'] ∧
      c ≠ '-' ∧ c.isDigit = false := by
    exact forall_mem_of_all (by decide)
  apply refuses_alt
  · apply refuses_string
    intro hhead
    exact (hlayout _ (h _ hhead)).left rfl
  apply refuses_alt
  · apply refuses_literal
    intro c hc
    exact (hlayout c (h c hc)).right.left
  · have hdigits : Refuses (plus (chars Char.isDigit)) before text := by
      apply refuses_seq
      apply refuses_chars
      intro c hc
      exact (hlayout c (h c hc)).right.right.right
    have hminus : Refuses (char '-') before text := by
      apply refuses_char
      intro hhead
      exact (hlayout _ (h _ hhead)).right.right.left rfl
    apply refuses_seq_of_ends
    intro q hq
    have hq' : q = ⟨before, text⟩ := by
      have hends : q ∈ (char '-').ends ⟨before, text⟩ ++ [⟨before, text⟩] := hq
      rw [show (char '-').ends ⟨before, text⟩ = [] from hminus] at hends
      exact List.mem_singleton.mp hends
    rw [hq']
    exact refuses_seq hdigits

theorem recolour_nil : recolour before [] = [] :=
  replaceFrom_nil (refuses_highlight fun c hc => by cases hc)

theorem recolour_layout {cs : List Char} (h : forall c, c ∈ cs -> c ∈ layout)
    (rest : List Char) :
    recolour before (cs ++ rest) =
      cs ++ recolour (passed before cs) rest := by
  induction cs generalizing before with
  | nil => rfl
  | cons c cs ih =>
      have hc := h c List.mem_cons_self
      have hcs := @ih (some c) fun d hd => h d (List.mem_cons_of_mem c hd)
      have hrefuses : Refuses highlightRegex before (c :: (cs ++ rest)) := by
        apply refuses_highlight
        intro d hd
        cases hd
        exact hc
      show recolour before (c :: (cs ++ rest)) = c :: (cs ++ _)
      unfold recolour at hcs ⊢
      rw [replaceFrom_cons hrefuses, hcs]
      rfl

theorem opens_passed {cs : List Char} (hne : cs ≠ [])
    (h : forall c, c ∈ cs -> c ∈ layout) : Opens (passed before cs) := by
  have hlayout : forall c, c ∈ layout -> isWord c = false := by
    exact forall_mem_of_all (by decide)
  induction cs generalizing before with
  | nil => exact absurd rfl hne
  | cons c cs ih =>
      cases cs with
      | nil => exact hlayout c (h c List.mem_cons_self)
      | cons d cs =>
          exact @ih (some c) (List.cons_ne_nil d cs)
            fun e he => h e (List.mem_cons_of_mem c he)

theorem plain_layout {cs : List Char} (h : forall c, c ∈ cs -> c ∈ layout) :
    Plain cs := by
  have hlayout : forall c, c ∈ layout -> entity c = [c] := by
    exact forall_mem_of_all (by decide)
  exact fun c hc => hlayout c (h c hc)

theorem layout_of_spaces {cs : List Char} (h : Spaces cs) :
    forall c, c ∈ cs -> c ∈ layout := by
  intro c hc
  have hspaces : forall c, c ∈ [' ', '\t', '\n', '\r'] -> c ∈ layout := by
    exact forall_mem_of_all (by decide)
  exact hspaces c (isSpace_cases (h c hc))

/-!
## Values
-/

/-- Where the text stands for a value it is replaced by the markup. -/
def MarkedAs (text markup : List Char) : Prop :=
  forall before rest, Opens before -> Closes rest ->
    recolour before (escaped text ++ rest) =
      markup ++ recolour (passed before (escaped text)) rest

theorem recolour_token (hne : text ≠ [])
    (h : Prefers highlightRegex before text rest) :
    recolour before (text ++ rest) =
      mark (cls text) text ++ recolour (passed before text) rest :=
  replaceFrom_append hne h

theorem markedAs_literal {c : Cls} (hplain : Plain text) (hne : text ≠ [])
    (hcls : cls text = c)
    (h : forall before rest, Opens before -> Closes rest ->
      Prefers highlightRegex before text rest) :
    MarkedAs text (mark c text) := by
  intro before rest hbefore hrest
  rw [escaped_of_plain hplain, ← hcls]
  exact recolour_token hne (h before rest hbefore hrest)

theorem cls_escaped_quote (value : String) :
    cls (escaped (quote value)) = Cls.string := by
  have hlast : (escaped (quote value)).getLast? = some '"' := by
    rw [escaped_quote, ← List.append_assoc]
    exact List.getLast?_concat
  unfold cls
  rw [if_pos (by rw [escaped_quote]; rfl), hlast]
  rfl

theorem cls_escaped_key (name : String) :
    cls (escaped (quote name) ++ [':']) = Cls.key := by
  unfold cls
  rw [if_pos (by rw [escaped_quote]; rfl), if_pos (by simp)]

theorem escaped_quote_ne_nil (value : String) (tail : List Char) :
    escaped (quote value) ++ tail ≠ [] := by
  rw [escaped_quote]
  exact List.cons_ne_nil _ _

theorem markedAs_string (value : String) :
    MarkedAs (quote value) (mark Cls.string (escaped (quote value))) := by
  intro before rest _ hrest
  have hprefers : Prefers highlightRegex before
      (escaped (quote value) ++ []) rest :=
    prefers_alt_left (prefers_string value fun _ =>
      prefers_opt_nothing hrest.refuses_colon)
  have htoken := recolour_token (escaped_quote_ne_nil value []) hprefers
  rw [List.append_nil, cls_escaped_quote] at htoken
  exact htoken

/-- A name is marked with its colon, whatever comes behind. -/
theorem recolour_key (name : String) (rest : List Char) :
    recolour before (escaped (quote name) ++ [':'] ++ rest) =
      mark Cls.key (escaped (quote name) ++ [':']) ++
        recolour (some ':') rest := by
  have hcolon : forall before, Prefers
      (opt (concat [star (chars isBlank), char ':'])) before [':'] rest := by
    intro before
    have hall : Prefers (concat [star (chars isBlank), char ':']) before
        ([] ++ ([':'] ++ [])) rest := by
      apply prefers_seq
      · apply prefers_star_nil
        apply refuses_chars
        intro c hc
        cases hc
        decide
      · exact prefers_seq prefers_char prefers_empty
    exact prefers_opt hall
  have hprefers : Prefers highlightRegex before
      (escaped (quote name) ++ [':']) rest :=
    prefers_alt_left (prefers_string name hcolon)
  have htoken := recolour_token (escaped_quote_ne_nil name _) hprefers
  rw [cls_escaped_key, passed_append] at htoken
  exact htoken

/-- The characters of a decimal text. -/
def IsNumeral (c : Char) : Prop :=
  c.isDigit = true ∨ c ∈ ['-', '+', '.', 'e', 'E']

instance : DecidablePred IsNumeral := fun c =>
  inferInstanceAs (Decidable (c.isDigit = true ∨ c ∈ ['-', '+', '.', 'e', 'E']))

theorem isNumeral_of_decimal {sign whole fraction scale : List Char}
    (hsign : sign = [] ∨ sign = ['-']) (hwhole : Digits whole)
    (hfraction : FractionText fraction) (hscale : ScaleText scale) :
    forall c, c ∈ sign ++ (whole ++ (fraction ++ scale)) -> IsNumeral c := by
  have hsymbol : forall c, c ∈ ['-', '+', '.', 'e', 'E'] -> IsNumeral c :=
    fun _ => Or.inr
  intro c hc
  rcases List.mem_append.mp hc with hc | hc
  · rcases hsign with rfl | rfl
    · cases hc
    · rw [List.mem_singleton.mp hc]
      exact hsymbol _ (by simp)
  rcases List.mem_append.mp hc with hc | hc
  · exact Or.inl (hwhole.right c hc)
  rcases List.mem_append.mp hc with hc | hc
  · cases hfraction with
    | none => cases hc
    | point hdigits =>
        rcases List.mem_cons.mp hc with rfl | hc
        · exact hsymbol _ (by simp)
        · exact Or.inl (hdigits.right c hc)
  · cases hscale with
    | none => cases hc
    | scale he hsign' hdigits =>
        rcases List.mem_cons.mp hc with rfl | hc
        · rcases he with rfl | rfl
          · exact hsymbol _ (by simp)
          · exact hsymbol _ (by simp)
        rcases List.mem_append.mp hc with hc | hc
        · rcases hsign' with rfl | rfl | rfl
          · cases hc
          · rw [List.mem_singleton.mp hc]
            exact hsymbol _ (by simp)
          · rw [List.mem_singleton.mp hc]
            exact hsymbol _ (by simp)
        · exact Or.inl (hdigits.right c hc)

section Numerals

variable {cs : List Char}

theorem notMem_of_isNumeral (h : forall c, c ∈ cs -> IsNumeral c)
    (hc : ¬ IsNumeral c) : c ∉ cs :=
  fun hmem => hc (h c hmem)

theorem plain_of_isNumeral (h : forall c, c ∈ cs -> IsNumeral c) :
    Plain cs := by
  intro c hc
  rcases h c hc with hdigit | hother
  · exact entity_of_isDigit hdigit
  · have hall : forall c, c ∈ ['-', '+', '.', 'e', 'E'] -> entity c = [c] := by
      exact forall_mem_of_all (by decide)
    exact hall c hother

theorem not_infix_of_notMem {word : List Char} (hword : c ∈ word)
    (h : c ∉ cs) : ¬ word <:+: cs :=
  fun hin => h (hin.subset hword)

theorem cls_of_isNumeral (h : forall c, c ∈ cs -> IsNumeral c) :
    cls cs = Cls.number := by
  have hno : forall c, c ∈ ['"', 'u', 's'] -> ¬ IsNumeral c := by
    exact forall_mem_of_all (by decide)
  have hu := notMem_of_isNumeral h (hno 'u' (by decide))
  have hs := notMem_of_isNumeral h (hno 's' (by decide))
  have hquote : cs.head? ≠ some '"' := fun hhead =>
    notMem_of_isNumeral h (hno '"' (by decide)) (List.mem_of_head? hhead)
  unfold cls
  rw [if_neg hquote, if_neg, if_neg]
  · exact not_infix_of_notMem (by decide) hu
  · rintro (htrue | hfalse)
    · exact not_infix_of_notMem (by decide) hu htrue
    · exact not_infix_of_notMem (by decide) hs hfalse

theorem numberCls_of_isNumeral (h : forall c, c ∈ cs -> IsNumeral c) :
    numberCls cs = Cls.number := by
  unfold numberCls
  rw [if_neg]
  rintro rfl
  have hno : ¬ IsNumeral 'n' := by
    decide
  exact hno (h 'n' (by decide))

end Numerals

theorem markedAs_number (h : NumberText text) :
    MarkedAs text (mark (numberCls text) text) := by
  cases h with
  | null =>
      apply markedAs_literal (by decide) (by decide) (by decide)
      exact fun _ _ => prefers_null
  | @decimal sign whole fraction scale hsign hwhole hfraction hscale =>
      have hall := isNumeral_of_decimal hsign hwhole hfraction hscale
      have hne : sign ++ (whole ++ (fraction ++ scale)) ≠ [] := by
        intro hnil
        exact hwhole.left (List.append_eq_nil_iff.mp
          (List.append_eq_nil_iff.mp hnil).right).left
      rw [numberCls_of_isNumeral hall]
      apply markedAs_literal (plain_of_isNumeral hall) hne
        (cls_of_isNumeral hall)
      intro before rest _ hrest
      have hnumber : Prefers numberRegex before
          (sign ++ (whole ++ (fraction ++ scale))) rest :=
        prefers_number hsign hwhole hfraction hscale hrest.endsNumber
      have hno : forall c, c ∈ ['"', 't', 'f', 'n'] -> ¬ IsNumeral c := by
        exact forall_mem_of_all (by decide)
      have hhead : forall c,
          (sign ++ (whole ++ (fraction ++ scale)) ++ rest).head? = some c ->
            IsNumeral c := by
        intro c hc
        rw [List.head?_append_of_ne_nil _ hne] at hc
        exact hall c (List.mem_of_head? hc)
      apply prefers_alt_right
      · exact refuses_string fun hc => hno '"' (by decide) (hhead _ hc)
      apply prefers_alt_right
      · apply refuses_literal
        intro c hc hmem
        exact hno c (List.mem_cons_of_mem _ hmem) (hhead c hc)
      · exact hnumber

/-!
## Brackets
-/

/-- Texts between brackets are replaced one by one. -/
theorem markedAs_joined {lead : List Char} (hlead : Spaces lead)
    {texts markups : List (List Char)}
    (h : List.Forall₂ MarkedAs texts markups) :
    MarkedAs ((',' :: lead).intercalate texts)
      ((',' :: lead).intercalate markups) := by
  have hsep : forall c, c ∈ ',' :: lead -> c ∈ layout := by
    intro c hc
    rcases List.mem_cons.mp hc with rfl | hc
    · decide
    · exact layout_of_spaces hlead c hc
  induction h with
  | nil => exact fun _ _ _ _ => rfl
  | @cons text markup texts markups hfirst hothers ih =>
      cases hothers with
      | nil =>
          rw [List.intercalate_singleton, List.intercalate_singleton]
          exact hfirst
      | @cons text' markup' texts markups hsecond hothers =>
          intro before rest hbefore hrest
          have hnext : Closes (',' :: lead ++
              (escaped ((',' :: lead).intercalate (text' :: texts)) ++ rest)) :=
            closes_cons (by decide)
          have hopens : Opens (passed (passed before (escaped text))
              (',' :: lead)) := opens_passed (List.cons_ne_nil ',' lead) hsep
          have hlater := ih _ rest hopens hrest
          rw [List.intercalate_cons_cons, List.intercalate_cons_cons,
            escaped_append, escaped_append,
            escaped_of_plain (plain_layout hsep), List.append_assoc,
            List.append_assoc, hfirst before _ hbefore hnext,
            recolour_layout hsep, hlater]
          simp only [List.append_assoc, passed_append]

theorem markedAs_between {front back markup : List Char} (hne : front ≠ [])
    (hfront : forall c, c ∈ front -> c ∈ layout)
    (hback : forall c, c ∈ back -> c ∈ layout)
    (hcloses : forall rest, Closes (back ++ rest)) (h : MarkedAs text markup) :
    MarkedAs (front ++ (text ++ back)) (front ++ (markup ++ back)) := by
  intro before rest _ _
  rw [escaped_append, escaped_append, escaped_of_plain (plain_layout hfront),
    escaped_of_plain (plain_layout hback), List.append_assoc,
    List.append_assoc, recolour_layout hfront,
    h _ _ (opens_passed hne hfront) (hcloses rest), recolour_layout hback]
  simp only [List.append_assoc, passed_append]

theorem spaces_gap : Spaces [' ', ' '] := by
  intro c hc
  rw [List.eq_of_mem_replicate (n := 2) hc]
  decide

theorem markedAs_bracketed {opening closing : Char} {indent : List Char}
    (hopening : opening ∈ layout) (hclosing : closing ∈ [']', '\x7d'])
    (hindent : Spaces indent) {texts markups : List (List Char)}
    (h : List.Forall₂ MarkedAs texts markups) :
    MarkedAs (bracketed opening closing [' ', ' '] indent texts)
      (bracketed opening closing [' ', ' '] indent markups) := by
  have hclosing' : closing ∈ layout := by
    have hall : forall c, c ∈ [']', '\x7d'] -> c ∈ layout := by
      exact forall_mem_of_all (by decide)
    exact hall closing hclosing
  cases h with
  | nil =>
      intro before rest _ _
      have hpair : forall c, c ∈ [opening, closing] -> c ∈ layout := by
        intro c hc
        rcases List.mem_cons.mp hc with rfl | hc
        · exact hopening
        · rw [List.mem_singleton.mp hc]
          exact hclosing'
      show recolour before (escaped [opening, closing] ++ rest) =
        [opening, closing] ++
          recolour (passed before (escaped [opening, closing])) rest
      rw [escaped_of_plain (plain_layout hpair)]
      exact recolour_layout hpair rest
  | @cons text markup texts markups hfirst hothers =>
      have hlead := spaces_leading spaces_gap hindent
      have htrail := spaces_trailing [' ', ' '] hindent
      have hjoined := markedAs_joined hlead
        (List.Forall₂.cons hfirst hothers)
      rw [bracketed_eq opening closing (List.cons_ne_nil text texts),
        bracketed_eq opening closing (List.cons_ne_nil markup markups)]
      have hfront : forall c, c ∈ opening :: leading [' ', ' '] indent ->
          c ∈ layout := by
        intro c hc
        rcases List.mem_cons.mp hc with rfl | hc
        · exact hopening
        · exact layout_of_spaces hlead c hc
      have hback : forall c, c ∈ trailing [' ', ' '] indent ++ [closing] ->
          c ∈ layout := by
        intro c hc
        rcases List.mem_append.mp hc with hc | hc
        · exact layout_of_spaces htrail c hc
        · rw [List.mem_singleton.mp hc]
          exact hclosing'
      have hcloses : forall rest,
          Closes (trailing [' ', ' '] indent ++ [closing] ++ rest) := by
        intro rest
        have hend : Closes (closing :: rest) :=
          closes_cons (List.mem_cons_of_mem ',' hclosing)
        rw [List.append_assoc]
        exact hend.spaces htrail
      rw [← List.cons_append, ← List.cons_append]
      exact markedAs_between (List.cons_ne_nil opening _) hfront hback hcloses
        hjoined

theorem markedAs_member (name : String) {markup : List Char}
    (h : MarkedAs text markup) :
    MarkedAs (quote name ++ colon [' ', ' '] ++ text)
      (mark Cls.key (escaped (quote name) ++ [':']) ++ ' ' :: markup) := by
  intro before rest _ hrest
  have hblank : forall c, c ∈ [' '] -> c ∈ layout := by
    exact forall_mem_of_all (by decide)
  have hvalue := h (some ' ') rest rfl hrest
  have hcut : escaped (quote name ++ colon [' ', ' '] ++ text) ++ rest =
      escaped (quote name) ++ [':'] ++ ([' '] ++ (escaped text ++ rest)) := by
    rw [escaped_append, escaped_append]
    simp only [List.append_assoc]
    rfl
  have hpassed : passed before
      (escaped (quote name ++ colon [' ', ' '] ++ text)) =
        passed (some ' ') (escaped text) := by
    rw [escaped_append, escaped_append, passed_append, passed_append]
    rfl
  rw [hcut, hpassed, recolour_key, recolour_layout hblank]
  show _ ++ ([' '] ++ recolour (some ' ') (escaped text ++ rest)) = _
  rw [hvalue]
  simp only [List.append_assoc, List.cons_append, List.nil_append]

/-!
## syntaxHighlight
-/

section Values

variable {number : Int -> Int -> List Char}

mutual

/-- Wherever the text of a value stands, it is replaced by its marked text. -/
theorem markedAs_stringifyAt
    (hnumber : forall mantissa exponent, NumberText (number mantissa exponent)) :
    forall (value : Json) {indent : List Char}, Spaces indent ->
      MarkedAs (stringifyAt number [' ', ' '] indent value)
        (markedAt number indent value)
  | Json.null, _, _ => by
      rw [stringifyAt, markedAt]
      exact markedAs_literal (by decide) (by decide) (by decide)
        fun _ _ => prefers_null
  | Json.bool true, _, _ => by
      rw [stringifyAt, markedAt]
      exact markedAs_literal (by decide) (by decide) (by decide)
        fun _ _ => prefers_true
  | Json.bool false, _, _ => by
      rw [stringifyAt, markedAt]
      exact markedAs_literal (by decide) (by decide) (by decide)
        fun _ _ => prefers_false
  | Json.int value, _, _ => by
      rw [stringifyAt, markedAt]
      exact markedAs_number (hnumber value 0)
  | Json.double mantissa exponent, _, _ => by
      rw [stringifyAt, markedAt]
      exact markedAs_number (hnumber mantissa exponent)
  | Json.string value, _, _ => by
      rw [stringifyAt, markedAt]
      exact markedAs_string value
  | Json.array items, indent, hindent => by
      rw [stringifyAt, markedAt]
      exact markedAs_bracketed (by decide) (by decide) hindent
        (markedAs_items hnumber items (spaces_append hindent spaces_gap))
  | Json.object members, indent, hindent => by
      rw [stringifyAt, markedAt]
      exact markedAs_bracketed (by decide) (by decide) hindent
        (markedAs_members hnumber members (spaces_append hindent spaces_gap))

theorem markedAs_items
    (hnumber : forall mantissa exponent, NumberText (number mantissa exponent)) :
    forall (items : List Json) {indent : List Char}, Spaces indent ->
      List.Forall₂ MarkedAs (stringifyItems number [' ', ' '] indent items)
        (markedItems number indent items)
  | [], _, _ => by
      rw [stringifyItems, markedItems]
      exact List.Forall₂.nil
  | item :: items, _, hindent => by
      rw [stringifyItems, markedItems]
      exact List.Forall₂.cons (markedAs_stringifyAt hnumber item hindent)
        (markedAs_items hnumber items hindent)

theorem markedAs_members
    (hnumber : forall mantissa exponent, NumberText (number mantissa exponent)) :
    forall (members : List (String × Json)) {indent : List Char},
      Spaces indent ->
      List.Forall₂ MarkedAs (stringifyMembers number [' ', ' '] indent members)
        (markedMembers number indent members)
  | [], _, _ => by
      rw [stringifyMembers, markedMembers]
      exact List.Forall₂.nil
  | (name, value) :: members, _, hindent => by
      rw [stringifyMembers, markedMembers]
      exact List.Forall₂.cons
        (markedAs_member name (markedAs_stringifyAt hnumber value hindent))
        (markedAs_members hnumber members hindent)

end

/--
In a value that is no string, `syntaxHighlight` marks every name and every leaf
as a whole and with the class of its kind, and nothing else.
-/
theorem syntaxHighlight_eq_markedAt
    (hnumber : forall mantissa exponent, NumberText (number mantissa exponent))
    {json : Json} (h : ¬ IsString json) :
    syntaxHighlight number json = markedAt number [] json := by
  have hmarked := markedAs_stringifyAt hnumber json spaces_nil none [] rfl
    closes_nil
  rw [List.append_nil, recolour_nil, List.append_nil] at hmarked
  rw [syntaxHighlight_of_not_isString h]
  unfold highlight
  rw [escape_eq_escaped]
  exact hmarked

end Values

theorem digits_toDigits (n : Nat) : Digits (Nat.toDigits 10 n) :=
  ⟨Nat.toDigits_ne_nil,
    fun _ hc => Nat.isDigit_of_mem_toDigits (by decide) (by decide) hc⟩

theorem numberText_wholeNumber (mantissa exponent : Int) :
    NumberText (wholeNumber mantissa exponent) := by
  have hdigits := digits_toDigits mantissa.natAbs
  have hdecimal : forall sign, sign = [] ∨ sign = ['-'] ->
      NumberText (sign ++ (Nat.toDigits 10 mantissa.natAbs ++ ([] ++ []))) :=
    fun _ hsign => NumberText.decimal hsign hdigits FractionText.none
      ScaleText.none
  unfold wholeNumber
  rw [toList_toString_int]
  split
  · simpa using hdecimal ['-'] (Or.inr rfl)
  · simpa using hdecimal [] (Or.inl rfl)

/-- Every kind of leaf, and a string that looks like the other kinds. -/
def nestedValue : Json :=
  Json.object [("a<", Json.array [Json.bool true, Json.null, Json.int (-12)]),
    ("b", Json.string "x\": true, 1")]

theorem syntaxHighlight_eq_markedAt_nestedValue :
    syntaxHighlight wholeNumber nestedValue =
      markedAt wholeNumber [] nestedValue := by
  apply syntaxHighlight_eq_markedAt numberText_wholeNumber
  rintro ⟨text, htext⟩
  cases htext

end Websock
end XdsService

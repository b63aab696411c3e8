import XdsService.Foundation.Matching
import XdsService.Foundation.RoundTrip
import XdsService.Websock.Logger

/-!
# The tokens of a JSON text

What the pattern of `syntaxHighlight` matches where a name, a string, a literal
or a number stands in an escaped JSON text: all of it and nothing behind it.
-/

namespace XdsService
namespace Websock

open Foundation
open Foundation.Markup
open Foundation.Regex
open Foundation.RoundTrip
open Foundation.Stringify

/-!
## Number texts
-/

def Digits (cs : List Char) : Prop :=
  cs ≠ [] ∧ forall c, c ∈ cs -> c.isDigit = true

inductive FractionText : List Char -> Prop where
  | none : FractionText []
  | point {digits : List Char} :
      Digits digits -> FractionText ('.' :: digits)

inductive ScaleText : List Char -> Prop where
  | none : ScaleText []
  | scale {e : Char} {sign digits : List Char} :
      e = 'e' ∨ e = 'E' -> sign = [] ∨ sign = ['+'] ∨ sign = ['-'] ->
      Digits digits -> ScaleText (e :: (sign ++ digits))

/-- What is written for a number: a decimal text, or null. -/
inductive NumberText : List Char -> Prop where
  | null : NumberText "null".toList
  | decimal {sign whole fraction scale : List Char} :
      sign = [] ∨ sign = ['-'] -> Digits whole -> FractionText fraction ->
      ScaleText scale ->
      NumberText (sign ++ (whole ++ (fraction ++ scale)))

/-- What holds of each of some characters is decided for them alone. -/
theorem forall_mem_of_all {P : Char -> Prop} [DecidablePred P]
    {cs : List Char} (h : (cs.all fun c => decide (P c)) = true) :
    forall c, c ∈ cs -> P c :=
  fun c hc => of_decide_eq_true (List.all_eq_true.mp h c hc)

theorem Digits.head {digits : List Char} (h : Digits digits)
    (rest : List Char) :
    exists c, (digits ++ rest).head? = some c ∧ c.isDigit = true := by
  cases digits with
  | nil => exact absurd rfl h.left
  | cons c digits => exact ⟨c, rfl, h.right c List.mem_cons_self⟩

variable {before : Option Char} {text rest : List Char} {c : Char}

/-!
## Where tokens end
-/

/-- A word or a number does not reach over this place from before it. -/
def Opens (before : Option Char) : Prop := before.any isWord = false

/-- What may stand behind a value in a text. -/
def Closes (rest : List Char) : Prop :=
  exists spaces behind, rest = spaces ++ behind ∧ Spaces spaces ∧
    forall c, behind.head? = some c -> c ∈ [',', ']', '\x7d']

theorem closes_nil : Closes [] :=
  ⟨[], [], rfl, spaces_nil, by simp⟩

theorem closes_cons (hc : c ∈ [',', ']', '\x7d']) : Closes (c :: rest) := by
  refine ⟨[], c :: rest, rfl, spaces_nil, ?_⟩
  intro d hd
  cases hd
  exact hc

theorem Closes.spaces (h : Closes rest) {spaces : List Char}
    (hspaces : Spaces spaces) : Closes (spaces ++ rest) := by
  rcases h with ⟨spaces', behind, rfl, hspaces', hbehind⟩
  exact ⟨spaces ++ spaces', behind, (List.append_assoc _ _ _).symm,
    spaces_append hspaces hspaces', hbehind⟩

theorem isSpace_cases (h : JsonText.isSpace c = true) :
    c ∈ [' ', '\t', '\n', '\r'] := by
  simp only [JsonText.isSpace, Bool.or_eq_true, decide_eq_true_eq] at h
  rcases h with ((rfl | rfl) | rfl) | rfl
  all_goals simp

/-- The characters that can stand behind a value. -/
theorem Closes.head (h : Closes rest) (hc : rest.head? = some c) :
    c ∈ [' ', '\t', '\n', '\r', ',', ']', '\x7d'] := by
  rcases h with ⟨spaces, behind, rfl, hspaces, hbehind⟩
  cases spaces with
  | nil =>
      have hmem := hbehind c hc
      simp only [List.mem_cons, List.not_mem_nil, or_false] at hmem ⊢
      exact Or.inr (Or.inr (Or.inr (Or.inr hmem)))
  | cons d spaces =>
      cases hc
      have hmem := isSpace_cases (hspaces c List.mem_cons_self)
      simp only [List.mem_cons, List.not_mem_nil, or_false] at hmem ⊢
      tauto

theorem Closes.endsNumber (h : Closes rest) : EndsNumber rest := by
  have hall : forall c, c ∈ [' ', '\t', '\n', '\r', ',', ']', '\x7d'] ->
      c.isDigit = false ∧ c ≠ '.' ∧ c ≠ 'e' ∧ c ≠ 'E' := by
    exact forall_mem_of_all (by decide)
  exact fun c hc => hall c (h.head hc)

theorem Closes.any_isWord (h : Closes rest) :
    rest.head?.any isWord = false := by
  have hall : forall c, c ∈ [' ', '\t', '\n', '\r', ',', ']', '\x7d'] ->
      isWord c = false := by
    exact forall_mem_of_all (by decide)
  cases hhead : rest.head? with
  | none => rfl
  | some c => exact hall c (h.head hhead)

/-- A string that stands for a value is not taken for a name. -/
theorem Closes.refuses_colon (h : Closes rest) :
    Refuses (concat [star (chars isBlank), char ':']) before rest := by
  apply refuses_seq_of_ends
  intro q hq
  apply refuses_seq
  apply refuses_char
  intro hcolon
  rcases accepts_of_mem_repeated hq with ⟨front, hfront, hall⟩
  rcases h with ⟨spaces, behind, rfl, hspaces, hbehind⟩
  have hbehind' : behind.head? ≠ some ':' := by
    intro hhead
    have hmem := hbehind ':' hhead
    simp at hmem
  rcases List.append_eq_append_iff.mp hfront with
    ⟨more, rfl, hmore⟩ | ⟨more, rfl, hmore⟩
  · cases more with
    | nil =>
        rw [hmore] at hbehind'
        exact hbehind' hcolon
    | cons d more =>
        have hmem := hbehind d (by rw [hmore]; rfl)
        have hblank := hall d (by simp)
        have hnone : forall d, d ∈ [',', ']', '\x7d'] -> isBlank d = false := by
          exact forall_mem_of_all (by decide)
        rw [hnone d hmem] at hblank
        cases hblank
  · rw [hmore] at hcolon
    cases more with
    | nil => exact hbehind' hcolon
    | cons d more =>
        cases hcolon
        have hspace := hspaces ':' (by simp)
        cases hspace

/-!
## Strings
-/

theorem escaped_append (front behind : List Char) :
    escaped (front ++ behind) = escaped front ++ escaped behind :=
  List.flatMap_append

theorem escaped_of_plain {cs : List Char} (h : Plain cs) : escaped cs = cs := by
  induction cs with
  | nil => rfl
  | cons c cs ih =>
      have hc := h c List.mem_cons_self
      have hcs := ih fun d hd => h d (List.mem_cons_of_mem c hd)
      show entity c ++ escaped cs = _
      rw [hc, hcs]
      rfl

/-- How a character is written between the quotes. -/
theorem quoteChar_cases (c : Char) :
    (exists letter, letter ≠ 'u' ∧ entity letter = [letter] ∧
      quoteChar c = ['\\', letter]) ∨
    (exists high low, high.isAlphanum = true ∧ low.isAlphanum = true ∧
      entity high = [high] ∧ entity low = [low] ∧
      quoteChar c = ['\\', 'u', '0', '0', high, low]) ∨
    (c ≠ '\\' ∧ c ≠ '"' ∧ quoteChar c = [c]) := by
  have hdigit : forall n, n < 16 -> (Nat.digitChar n).isAlphanum = true ∧
      entity (Nat.digitChar n) = [Nat.digitChar n] := by
    decide
  unfold quoteChar
  split
  · exact Or.inl ⟨'"', by decide, by decide, rfl⟩
  split
  · exact Or.inl ⟨'\\', by decide, by decide, rfl⟩
  split
  · exact Or.inl ⟨'b', by decide, by decide, rfl⟩
  split
  · exact Or.inl ⟨'t', by decide, by decide, rfl⟩
  split
  · exact Or.inl ⟨'n', by decide, by decide, rfl⟩
  split
  · exact Or.inl ⟨'f', by decide, by decide, rfl⟩
  split
  · exact Or.inl ⟨'r', by decide, by decide, rfl⟩
  split
  · rename_i hcontrol
    have hhigh := hdigit (c.toNat / 16) (by omega)
    have hlow := hdigit (c.toNat % 16) (by omega)
    exact Or.inr (Or.inl ⟨_, _, hhigh.left, hlow.left, hhigh.right,
      hlow.right, rfl⟩)
  · rename_i hquote hescape _ _ _ _ _ _
    exact Or.inr (Or.inr ⟨hescape, hquote, rfl⟩)

theorem prefers_quoted_escape {letter : Char} (h : letter ≠ 'u') :
    Prefers quotedRegex before ['\\', letter] rest := by
  apply prefers_alt_right
  · apply refuses_seq_of_ends
    intro q hq
    have hq' := List.mem_singleton.mp hq
    rw [hq']
    apply refuses_seq
    apply refuses_char
    intro hhead
    exact h (Option.some.inj hhead)
  · apply prefers_alt_left
    have hpair : Prefers (concat [char '\\', chars fun c => decide (c ≠ 'u')])
        before (['\\'] ++ ([letter] ++ [])) rest :=
      prefers_seq prefers_char
        (prefers_seq (prefers_chars (decide_eq_true h)) prefers_empty)
    exact hpair

theorem prefers_quoted_unit {high low : Char} (hhigh : high.isAlphanum = true)
    (hlow : low.isAlphanum = true) :
    Prefers quotedRegex before ['\\', 'u', '0', '0', high, low] rest := by
  apply prefers_alt_left
  have hunits : forall c, c ∈ ['0', '0', high, low] -> c.isAlphanum = true := by
    intro c hc
    simp only [List.mem_cons, List.not_mem_nil, or_false] at hc
    rcases hc with rfl | rfl | rfl | rfl
    · decide
    · decide
    · exact hhigh
    · exact hlow
  have hall : Prefers
      (concat [char '\\', char 'u', times (chars Char.isAlphanum) 4])
      before (['\\'] ++ (['u'] ++ (['0', '0', high, low] ++ []))) rest :=
    prefers_seq prefers_char (prefers_seq prefers_char
      (prefers_seq (prefers_times_chars hunits) prefers_empty))
  exact hall

theorem refuses_escape (r : Regex) (h : c ≠ '\\') :
    Refuses (seq (char '\\') r) before (c :: rest) := by
  apply refuses_seq
  apply refuses_char
  intro hhead
  exact h (Option.some.inj hhead)

theorem prefers_quoted_plain (hescape : c ≠ '\\') (hquote : c ≠ '"') :
    Prefers quotedRegex before [c] rest := by
  apply prefers_alt_right (refuses_escape _ hescape)
  apply prefers_alt_right (refuses_escape _ hescape)
  exact prefers_chars (decide_eq_true ⟨hescape, hquote⟩)

theorem refuses_quoted : Refuses quotedRegex before ('"' :: rest) := by
  apply refuses_alt (refuses_escape _ (by decide))
  apply refuses_alt (refuses_escape _ (by decide))
  apply refuses_chars
  intro c hc
  cases hc
  decide

/-- Characters that need no escape are matched one by one. -/
theorem prefers_star_plain {cs ds : List Char}
    (hall : forall c, c ∈ cs -> c ≠ '\\' ∧ c ≠ '"')
    (h : forall before, Prefers (star quotedRegex) before ds rest) :
    Prefers (star quotedRegex) before (cs ++ ds) rest := by
  induction cs generalizing before with
  | nil => exact h before
  | cons c cs ih =>
      have hfirst := hall c List.mem_cons_self
      have hrest := fun d hd => hall d (List.mem_cons_of_mem c hd)
      have hstar : Prefers (star quotedRegex) before ([c] ++ (cs ++ ds)) rest :=
        prefers_star_append (List.cons_ne_nil c [])
          (prefers_quoted_plain hfirst.left hfirst.right) (ih hrest)
      exact hstar

theorem entity_plain (hescape : c ≠ '\\') (hquote : c ≠ '"') :
    forall d, d ∈ entity c -> d ≠ '\\' ∧ d ≠ '"' := by
  unfold entity
  split
  · exact forall_mem_of_all (by decide)
  split
  · exact forall_mem_of_all (by decide)
  split
  · exact forall_mem_of_all (by decide)
  · intro d hd
    rw [List.mem_singleton.mp hd]
    exact ⟨hescape, hquote⟩

/-- The star takes in a quoted character, however it is written. -/
theorem prefers_star_quoteChar (c : Char) {ds : List Char}
    (h : forall before, Prefers (star quotedRegex) before ds rest) :
    Prefers (star quotedRegex) before (escaped (quoteChar c) ++ ds) rest := by
  rcases quoteChar_cases c with ⟨letter, hletter, hplain, hquoted⟩ |
    ⟨high, low, hhigh, hlow, hhigh', hlow', hquoted⟩ |
    ⟨hescape, hquote, hquoted⟩
  · have hescaped : escaped (quoteChar c) = ['\\', letter] := by
      rw [hquoted]
      show entity '\\' ++ (entity letter ++ []) = _
      rw [hplain]
      rfl
    rw [hescaped]
    exact prefers_star_append (by simp) (prefers_quoted_escape hletter) (h _)
  · have hescaped : escaped (quoteChar c) =
        ['\\', 'u', '0', '0', high, low] := by
      rw [hquoted]
      show entity '\\' ++ (entity 'u' ++ (entity '0' ++ (entity '0' ++
        (entity high ++ (entity low ++ []))))) = _
      rw [hhigh', hlow']
      rfl
    rw [hescaped]
    exact prefers_star_append (by simp) (prefers_quoted_unit hhigh hlow) (h _)
  · have hescaped : escaped (quoteChar c) = entity c := by
      rw [hquoted]
      exact List.append_nil (entity c)
    rw [hescaped]
    exact prefers_star_plain (entity_plain hescape hquote) h

theorem prefers_star_quoted (cs : List Char) :
    Prefers (star quotedRegex) before (escaped (cs.flatMap quoteChar))
      ('"' :: rest) := by
  induction cs generalizing before with
  | nil => exact prefers_star_nil refuses_quoted
  | cons c cs ih =>
      rw [List.flatMap_cons, escaped_append]
      exact prefers_star_quoteChar c fun _ => ih

theorem escaped_quote (text : String) :
    escaped (quote text) =
      ['"'] ++ (escaped (text.toList.flatMap quoteChar) ++ ['"']) := by
  unfold quote
  show entity '"' ++ escaped (_ ++ _) = _
  rw [escaped_append]
  rfl

/-- A quoted string, with a colon or without, is one match. -/
theorem prefers_string (text : String) {tail : List Char}
    (htail : forall before,
      Prefers (opt (concat [star (chars isBlank), char ':'])) before tail rest) :
    Prefers stringRegex before (escaped (quote text) ++ tail) rest := by
  have hall : Prefers stringRegex before (['"'] ++
      (escaped (text.toList.flatMap quoteChar) ++ (['"'] ++ (tail ++ []))))
      rest :=
    prefers_seq prefers_char (prefers_seq (prefers_star_quoted _)
      (prefers_seq prefers_char (prefers_seq (htail _) prefers_empty)))
  rw [escaped_quote]
  simpa only [List.append_assoc, List.append_nil] using hall

/-!
## Literals and numbers
-/

theorem head_ne {d : Char} (h : text.head? = some d) (hne : d ≠ c) :
    text.head? ≠ some c := by
  rw [h]
  exact fun heq => hne (Option.some.inj heq)

theorem refuses_string (h : text.head? ≠ some '"') :
    Refuses stringRegex before text :=
  refuses_seq (refuses_char h)

theorem ends_boundary {q : Position}
    (h : q ∈ boundary.ends ⟨before, text⟩) : q = ⟨before, text⟩ := by
  unfold ends at h
  split at h
  · exact List.mem_singleton.mp h
  · cases h

theorem refuses_literal
    (h : forall c, text.head? = some c -> c ∉ ['t', 'f', 'n']) :
    Refuses literalRegex before text := by
  have hhead : forall c, c ∈ ['t', 'f', 'n'] -> text.head? ≠ some c :=
    fun c hc heq => h c heq hc
  apply refuses_seq_of_ends
  intro q hq
  rw [ends_boundary hq]
  apply refuses_seq
  exact refuses_alt (refuses_word (hhead 't' (by decide)))
    (refuses_alt (refuses_word (hhead 'f' (by decide)))
      (refuses_word (hhead 'n' (by decide))))

theorem atBoundary_of_opens (h : Opens before)
    (hword : text.head?.any isWord = true) :
    (Position.mk before text).atBoundary = true := by
  unfold Position.atBoundary
  rw [show before.any isWord = false from h, hword]
  rfl

theorem atBoundary_of_closes (h : Closes text)
    (hword : before.any isWord = true) :
    (Position.mk before text).atBoundary = true := by
  unfold Position.atBoundary
  rw [hword, h.any_isWord]
  rfl

/-- A literal between places where no word goes on. -/
theorem prefers_literal {literal : List Char}
    (hwords : Prefers (alt (word "true".toList)
      (alt (word "false".toList) (word "null".toList))) before literal rest)
    (hfirst : (literal ++ rest).head?.any isWord = true)
    (hlast : (passed before literal).any isWord = true)
    (hopens : Opens before) (hcloses : Closes rest) :
    Prefers literalRegex before literal rest := by
  have hall : Prefers literalRegex before ([] ++ (literal ++ ([] ++ []))) rest :=
    prefers_seq (prefers_boundary (atBoundary_of_opens hopens (by
        simpa only [List.nil_append, List.append_nil] using hfirst)))
      (prefers_seq hwords (prefers_seq
        (prefers_boundary (atBoundary_of_closes hcloses hlast)) prefers_empty))
  simpa only [List.nil_append, List.append_nil] using hall

theorem prefers_true (hopens : Opens before) (hcloses : Closes rest) :
    Prefers highlightRegex before "true".toList rest := by
  apply prefers_alt_right (refuses_string (head_ne rfl (by decide)))
  apply prefers_alt_left
  exact prefers_literal (prefers_alt_left prefers_word) (by rfl) (by rfl)
    hopens hcloses

theorem prefers_false (hopens : Opens before) (hcloses : Closes rest) :
    Prefers highlightRegex before "false".toList rest := by
  apply prefers_alt_right (refuses_string (head_ne rfl (by decide)))
  apply prefers_alt_left
  exact prefers_literal (prefers_alt_right (refuses_word (head_ne rfl (by decide)))
    (prefers_alt_left prefers_word)) (by rfl) (by rfl) hopens hcloses

theorem prefers_null (hopens : Opens before) (hcloses : Closes rest) :
    Prefers highlightRegex before "null".toList rest := by
  apply prefers_alt_right (refuses_string (head_ne rfl (by decide)))
  apply prefers_alt_left
  exact prefers_literal (prefers_alt_right (refuses_word (head_ne rfl (by decide)))
    (prefers_alt_right (refuses_word (head_ne rfl (by decide))) prefers_word))
    (by rfl) (by rfl) hopens hcloses

theorem prefers_fraction {fraction : List Char} (h : FractionText fraction)
    (hdigit : forall c, rest.head? = some c -> c.isDigit = false)
    (hpoint : fraction = [] -> rest.head? ≠ some '.') :
    Prefers (opt (concat [char '.', star (chars Char.isDigit)])) before
      fraction rest := by
  cases h with
  | none => exact prefers_opt_nothing (refuses_seq (refuses_char (hpoint rfl)))
  | @point digits hdigits =>
      have hall : Prefers (concat [char '.', star (chars Char.isDigit)]) before
          (['.'] ++ (digits ++ [])) rest :=
        prefers_seq prefers_char (prefers_seq
          (prefers_star_chars hdigits.right hdigit) prefers_empty)
      rw [List.append_nil] at hall
      exact prefers_opt hall

theorem prefers_sign {sign : List Char} {accepts : Char -> Bool}
    (h : sign = [] ∨ exists c, sign = [c] ∧ accepts c = true)
    (hrest : forall c, rest.head? = some c -> accepts c = false) :
    Prefers (opt (chars accepts)) before sign rest := by
  rcases h with rfl | ⟨c, rfl, hc⟩
  · exact prefers_opt_nothing (refuses_chars hrest)
  · exact prefers_opt (prefers_chars hc)

theorem prefers_scale {scale : List Char} (h : ScaleText scale)
    (hrest : EndsNumber rest) :
    Prefers (opt (concat [chars fun c => decide (c = 'e' ∨ c = 'E'),
      opt (chars fun c => decide (c = '+' ∨ c = '-')),
      plus (chars Char.isDigit)])) before scale rest := by
  cases h with
  | none =>
      apply prefers_opt_nothing
      apply refuses_seq
      apply refuses_chars
      intro c hc
      have hend := hrest c hc
      exact decide_eq_false
        (not_or.mpr ⟨hend.right.right.left, hend.right.right.right⟩)
  | @scale e sign digits he hsign hdigits =>
      have hsign' : sign = [] ∨
          exists c, sign = [c] ∧ decide (c = '+' ∨ c = '-') = true := by
        rcases hsign with rfl | rfl | rfl
        · exact Or.inl rfl
        · exact Or.inr ⟨'+', rfl, by decide⟩
        · exact Or.inr ⟨'-', rfl, by decide⟩
      have hnext : forall c, (digits ++ rest).head? = some c ->
          decide (c = '+' ∨ c = '-') = false := by
        intro c hc
        rcases hdigits.head rest with ⟨d, hd, hdigit⟩
        rw [hd] at hc
        cases hc
        apply decide_eq_false
        rintro (rfl | rfl)
        · cases hdigit
        · cases hdigit
      have hall : Prefers (concat [chars fun c => decide (c = 'e' ∨ c = 'E'),
          opt (chars fun c => decide (c = '+' ∨ c = '-')),
          plus (chars Char.isDigit)]) before
          ([e] ++ (sign ++ (digits ++ []))) rest := by
        apply prefers_seq (prefers_chars (decide_eq_true he))
        apply prefers_seq
        · rw [List.append_nil]
          exact prefers_sign hsign' hnext
        · exact prefers_seq (prefers_plus_chars hdigits.left hdigits.right
            fun c hc => (hrest c hc).left) prefers_empty
      rw [List.append_nil] at hall
      exact prefers_opt hall

theorem ScaleText.head {scale : List Char} (h : ScaleText scale)
    (hrest : EndsNumber rest) {c : Char}
    (hc : (scale ++ rest).head? = some c) : c.isDigit = false ∧ c ≠ '.' := by
  cases h with
  | none => exact ⟨(hrest c hc).left, (hrest c hc).right.left⟩
  | scale he hsign hdigits =>
      cases hc
      rcases he with rfl | rfl
      · exact ⟨by decide, by decide⟩
      · exact ⟨by decide, by decide⟩

theorem FractionText.head {fraction : List Char} (h : FractionText fraction)
    (hrest : forall c, rest.head? = some c -> c.isDigit = false) {c : Char}
    (hc : (fraction ++ rest).head? = some c) : c.isDigit = false := by
  cases h with
  | none => exact hrest c hc
  | point hdigits =>
      cases hc
      decide

/-- A decimal text is one match, if no number goes on behind it. -/
theorem prefers_number {sign whole fraction scale : List Char}
    (hsign : sign = [] ∨ sign = ['-']) (hwhole : Digits whole)
    (hfraction : FractionText fraction) (hscale : ScaleText scale)
    (hrest : EndsNumber rest) :
    Prefers numberRegex before (sign ++ (whole ++ (fraction ++ scale)))
      rest := by
  have hsign' : sign = [] ∨ exists c, sign = [c] ∧ decide (c = '-') = true := by
    rcases hsign with rfl | rfl
    · exact Or.inl rfl
    · exact Or.inr ⟨'-', rfl, by decide⟩
  have hbehind := fun c hc => (hscale.head (c := c) hrest hc).left
  have hall : Prefers numberRegex before
      (sign ++ (whole ++ (fraction ++ (scale ++ [])))) rest := by
    apply prefers_seq
    · apply prefers_sign hsign'
      intro c hc
      rcases hwhole.head (fraction ++ (scale ++ []) ++ rest) with ⟨d, hd, hdigit⟩
      rw [List.append_assoc, List.append_assoc, ← List.append_assoc fraction,
        hd] at hc
      cases hc
      apply decide_eq_false
      rintro rfl
      cases hdigit
    apply prefers_seq
    · apply prefers_plus_chars hwhole.left hwhole.right
      intro c hc
      rw [List.append_nil, List.append_assoc] at hc
      exact hfraction.head hbehind hc
    apply prefers_seq
    · rw [List.append_nil]
      apply prefers_fraction hfraction hbehind
      intro _ hpoint
      exact (hscale.head hrest hpoint).right rfl
    · exact prefers_seq (prefers_scale hscale hrest) prefers_empty
  simpa only [List.append_nil] using hall

end Websock
end XdsService

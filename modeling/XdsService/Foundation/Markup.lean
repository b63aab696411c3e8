import Mathlib.Data.List.Infix

/-!
# Text in markup

What is left of a piece of markup if some tags are taken out of it and its
character references are decoded.  A text comes back from the markup in which
its special characters were replaced by references, whatever tags were put in
between.
-/

namespace XdsService
namespace Foundation
namespace Markup

/-!
## Tags
-/

/-- Tags that are told apart while they are read. -/
structure Tags where
  tags : List (List Char)
  opens : forall tag, tag ∈ tags -> exists rest, tag = '<' :: rest
  prefixFree : forall tag, tag ∈ tags -> forall tag', tag' ∈ tags ->
    tag <+: tag' -> tag = tag'

namespace Tags

variable (ts : Tags)

/-- The text without the tags, and without its first `skip` characters. -/
def unwrapFrom : Nat -> List Char -> List Char
  | _, [] => []
  | skip + 1, _ :: rest => unwrapFrom skip rest
  | 0, c :: rest =>
      match ts.tags.find? fun tag => tag.isPrefixOf (c :: rest) with
      | some tag => unwrapFrom (tag.length - 1) rest
      | none => c :: unwrapFrom 0 rest

def unwrap (text : List Char) : List Char := ts.unwrapFrom 0 text

theorem unwrap_nil : ts.unwrap [] = [] := rfl

theorem unwrapFrom_append {skip : Nat} {front : List Char}
    (h : front.length = skip) (rest : List Char) :
    ts.unwrapFrom skip (front ++ rest) = ts.unwrap rest := by
  induction front generalizing skip with
  | nil =>
      cases h
      rfl
  | cons c front ih =>
      cases h
      exact ih rfl

theorem unwrap_cons_of_none {c : Char} {rest : List Char}
    (h : (ts.tags.find? fun tag => tag.isPrefixOf (c :: rest)) = none) :
    ts.unwrap (c :: rest) = c :: ts.unwrap rest := by
  show ts.unwrapFrom 0 (c :: rest) = _
  rw [unwrapFrom, h]
  rfl

theorem unwrap_cons_of_some {c : Char} {rest tag : List Char}
    (h : (ts.tags.find? fun tag => tag.isPrefixOf (c :: rest)) = some tag) :
    ts.unwrap (c :: rest) = ts.unwrapFrom (tag.length - 1) rest := by
  show ts.unwrapFrom 0 (c :: rest) = _
  rw [unwrapFrom, h]

theorem unwrap_cons_of_ne {c : Char} (h : c ≠ '<') (rest : List Char) :
    ts.unwrap (c :: rest) = c :: ts.unwrap rest := by
  apply ts.unwrap_cons_of_none
  rw [List.find?_eq_none]
  intro tag htag hprefix
  rcases ts.opens tag htag with ⟨later, rfl⟩
  have hhead := List.isPrefixOf_iff_prefix.mp hprefix
  exact h (List.cons_prefix_cons.mp hhead).left.symm

theorem unwrap_append {front : List Char} (h : '<' ∉ front)
    (rest : List Char) : ts.unwrap (front ++ rest) = front ++ ts.unwrap rest := by
  induction front with
  | nil => rfl
  | cons c front ih =>
      rw [List.mem_cons, not_or] at h
      rw [List.cons_append, ts.unwrap_cons_of_ne (Ne.symm h.left),
        ih h.right, List.cons_append]

theorem unwrap_of_notMem {text : List Char} (h : '<' ∉ text) :
    ts.unwrap text = text := by
  have hall := ts.unwrap_append h []
  rw [List.append_nil, unwrap_nil, List.append_nil] at hall
  exact hall

theorem find_tag {tag text : List Char} (h : tag ∈ ts.tags)
    (htext : tag <+: text) :
    (ts.tags.find? fun tag => tag.isPrefixOf text) = some tag := by
  cases hfind : ts.tags.find? fun tag => tag.isPrefixOf text with
  | none =>
      have hno := List.find?_eq_none.mp hfind tag h
      exact absurd (List.isPrefixOf_iff_prefix.mpr htext) hno
  | some found =>
      have hmem := List.mem_of_find?_eq_some hfind
      have hfound : found.isPrefixOf text = true :=
        List.find?_some (p := fun tag : List Char => tag.isPrefixOf text) hfind
      rcases List.prefix_or_prefix_of_prefix
        (List.isPrefixOf_iff_prefix.mp hfound) htext with hle | hle
      · rw [ts.prefixFree _ hmem _ h hle]
      · rw [ts.prefixFree _ h _ hmem hle]

theorem unwrap_tag {tag : List Char} (h : tag ∈ ts.tags)
    (rest : List Char) : ts.unwrap (tag ++ rest) = ts.unwrap rest := by
  have hfind := ts.find_tag h (List.prefix_append tag rest)
  rcases ts.opens tag h with ⟨later, rfl⟩
  exact (ts.unwrap_cons_of_some hfind).trans (ts.unwrapFrom_append rfl rest)

theorem unwrapFrom_sublist (skip : Nat) (text : List Char) :
    (ts.unwrapFrom skip text).Sublist text := by
  induction text generalizing skip with
  | nil => exact List.Sublist.slnil
  | cons c rest ih =>
      cases skip with
      | succ skip => exact (ih skip).cons c
      | zero =>
          unfold unwrapFrom
          split
          · exact (ih _).cons c
          · exact (ih 0).cons_cons c

end Tags

/-!
## Character references
-/

/--
How what stands behind an ampersand is read: the characters it refers to and
what follows, if it is a reference.  A reference is longer than what it refers
to, and the three that are used to write a text are among them.
-/
structure References where
  reads : List Char -> Option (List Char × List Char)
  amp : forall rest, reads ('a' :: 'm' :: 'p' :: ';' :: rest) = some (['&'], rest)
  lt : forall rest, reads ('l' :: 't' :: ';' :: rest) = some (['<'], rest)
  gt : forall rest, reads ('g' :: 't' :: ';' :: rest) = some (['>'], rest)
  shorter : forall text value rest, reads text = some (value, rest) ->
    value.length + rest.length ≤ text.length

namespace References

variable (refs : References)

def decode : List Char -> List Char
  | [] => []
  | c :: rest =>
      if c = '&' then
        match _h : refs.reads rest with
        | some (value, later) => value ++ decode later
        | none => c :: decode rest
      else
        c :: decode rest
termination_by text => text.length
decreasing_by
  all_goals simp only [List.length_cons]
  · have hle := refs.shorter rest value later _h
    omega
  · omega
  · omega

theorem decode_nil : refs.decode [] = [] := by
  rw [decode]

theorem decode_cons_of_ne {c : Char} (h : c ≠ '&') (rest : List Char) :
    refs.decode (c :: rest) = c :: refs.decode rest := by
  rw [decode, if_neg h]

theorem decode_of_some {rest value later : List Char}
    (h : refs.reads rest = some (value, later)) :
    refs.decode ('&' :: rest) = value ++ refs.decode later := by
  rw [decode, if_pos rfl]
  split
  · rename_i heq
    rw [h] at heq
    cases heq
    rfl
  · rename_i heq
    rw [h] at heq
    cases heq

theorem decode_of_none {rest : List Char} (h : refs.reads rest = none) :
    refs.decode ('&' :: rest) = '&' :: refs.decode rest := by
  rw [decode, if_pos rfl]
  split
  · rename_i heq
    rw [h] at heq
    cases heq
  · rfl

theorem length_decode_le (text : List Char) :
    (refs.decode text).length ≤ text.length := by
  induction hn : text.length using Nat.strong_induction_on generalizing text with
  | _ n ih =>
      cases text with
      | nil =>
          rw [decode_nil]
          exact Nat.zero_le n
      | cons c rest =>
          rw [List.length_cons] at hn
          by_cases hc : c = '&'
          · subst hc
            cases hreads : refs.reads rest with
            | none =>
                have hrest := ih rest.length (by omega) rest rfl
                rw [refs.decode_of_none hreads, List.length_cons]
                omega
            | some found =>
                rcases found with ⟨value, later⟩
                have hle := refs.shorter rest value later hreads
                have hlater := ih later.length (by omega) later rfl
                rw [refs.decode_of_some hreads, List.length_append]
                omega
          · have hrest := ih rest.length (by omega) rest rfl
            rw [refs.decode_cons_of_ne hc, List.length_cons]
            omega

theorem decode_append {front : List Char} (h : '&' ∉ front)
    (rest : List Char) :
    refs.decode (front ++ rest) = front ++ refs.decode rest := by
  induction front with
  | nil => rfl
  | cons c front ih =>
      rw [List.mem_cons, not_or] at h
      rw [List.cons_append, refs.decode_cons_of_ne (Ne.symm h.left),
        ih h.right, List.cons_append]

/-- No ampersand of the text starts a reference. -/
def NoReference (text : List Char) : Prop :=
  forall behind, ('&' :: behind) <:+ text -> refs.reads behind = none

theorem noReference_cons_iff {c : Char} {rest : List Char} :
    refs.NoReference (c :: rest) <->
      (c = '&' -> refs.reads rest = none) ∧ refs.NoReference rest := by
  constructor
  · intro h
    constructor
    · rintro rfl
      exact h rest (List.suffix_refl _)
    · intro behind hbehind
      exact h behind (hbehind.trans (List.suffix_cons c rest))
  · intro h behind hbehind
    rcases List.suffix_cons_iff.mp hbehind with heq | hrest
    · cases heq
      exact h.left rfl
    · exact h.right behind hrest

theorem noReference_append_iff {front : List Char} (h : '&' ∉ front)
    (rest : List Char) :
    refs.NoReference (front ++ rest) <-> refs.NoReference rest := by
  induction front with
  | nil => exact Iff.rfl
  | cons c front ih =>
      rw [List.mem_cons, not_or] at h
      rw [List.cons_append, noReference_cons_iff, ih h.right]
      exact and_iff_right fun hc => absurd hc.symm h.left

theorem decode_eq_self_iff (text : List Char) :
    refs.decode text = text <-> refs.NoReference text := by
  induction text with
  | nil =>
      rw [decode_nil]
      refine iff_of_true rfl ?_
      intro behind hbehind
      cases List.suffix_nil.mp hbehind
  | cons c rest ih =>
      rw [noReference_cons_iff]
      by_cases hc : c = '&'
      · subst hc
        cases hreads : refs.reads rest with
        | none =>
            rw [refs.decode_of_none hreads, List.cons_inj_right, ih]
            simp
        | some found =>
            rcases found with ⟨value, later⟩
            have hle := refs.shorter rest value later hreads
            have hlater := refs.length_decode_le later
            constructor
            · intro h
              rw [refs.decode_of_some hreads] at h
              have hlength := congrArg List.length h
              rw [List.length_append, List.length_cons] at hlength
              omega
            · intro h
              cases h.left rfl
      · rw [refs.decode_cons_of_ne hc, List.cons_inj_right, ih]
        simp [hc]

end References

/-!
## Writing a text
-/

/-- The character, written as a reference if it is special in markup. -/
def entity (c : Char) : List Char :=
  if c = '&' then ['&', 'a', 'm', 'p', ';']
  else if c = '<' then ['&', 'l', 't', ';']
  else if c = '>' then ['&', 'g', 't', ';']
  else [c]

def escaped (text : List Char) : List Char := text.flatMap entity

theorem entity_of_ne {c : Char} (hamp : c ≠ '&') (hlt : c ≠ '<')
    (hgt : c ≠ '>') : entity c = [c] := by
  unfold entity
  rw [if_neg hamp, if_neg hlt, if_neg hgt]

theorem notMem_entity (c : Char) : '<' ∉ entity c ∧ '>' ∉ entity c := by
  by_cases hamp : c = '&'
  · subst hamp
    decide
  by_cases hlt : c = '<'
  · subst hlt
    decide
  by_cases hgt : c = '>'
  · subst hgt
    decide
  rw [entity_of_ne hamp hlt hgt, List.mem_singleton, List.mem_singleton]
  exact ⟨Ne.symm hlt, Ne.symm hgt⟩

theorem opening_notMem_escaped (text : List Char) : '<' ∉ escaped text := by
  intro h
  rcases List.mem_flatMap.mp h with ⟨c, _, hc⟩
  exact (notMem_entity c).left hc

theorem closing_notMem_escaped (text : List Char) : '>' ∉ escaped text := by
  intro h
  rcases List.mem_flatMap.mp h with ⟨c, _, hc⟩
  exact (notMem_entity c).right hc

theorem decode_entity_append (refs : References) (c : Char)
    (rest : List Char) :
    refs.decode (entity c ++ rest) = c :: refs.decode rest := by
  by_cases hamp : c = '&'
  · subst hamp
    exact refs.decode_of_some (refs.amp rest)
  by_cases hlt : c = '<'
  · subst hlt
    exact refs.decode_of_some (refs.lt rest)
  by_cases hgt : c = '>'
  · subst hgt
    exact refs.decode_of_some (refs.gt rest)
  rw [entity_of_ne hamp hlt hgt]
  exact refs.decode_cons_of_ne hamp rest

theorem decode_escaped_append (refs : References) (text rest : List Char) :
    refs.decode (escaped text ++ rest) = text ++ refs.decode rest := by
  induction text with
  | nil => rfl
  | cons c text ih =>
      have hcons : escaped (c :: text) = entity c ++ escaped text :=
        List.flatMap_cons
      rw [hcons, List.append_assoc, decode_entity_append, ih,
        List.cons_append]

/-!
## Showing a text
-/

/-- Without the tags nothing but references is left, and they make the text. -/
structure Shows (ts : Tags) (refs : References) (markup text : List Char) :
    Prop where
  opening : '<' ∉ ts.unwrap markup
  closing : '>' ∉ ts.unwrap markup
  decoded : refs.decode (ts.unwrap markup) = text

structure MarkupFree (refs : References) (text : List Char) : Prop where
  opening : '<' ∉ text
  closing : '>' ∉ text
  reference : refs.NoReference text

variable {ts : Tags} {refs : References}

/-- Only a text with nothing special shows itself. -/
theorem shows_self_iff (ts : Tags) (refs : References) (text : List Char) :
    Shows ts refs text text <-> MarkupFree refs text := by
  constructor
  · intro h
    have hsub := ts.unwrapFrom_sublist 0 text
    have hdecoded := refs.length_decode_le (ts.unwrap text)
    rw [h.decoded] at hdecoded
    have hsame : ts.unwrap text = text := hsub.eq_of_length_le hdecoded
    have hdecode := h.decoded
    rw [hsame, refs.decode_eq_self_iff] at hdecode
    exact ⟨hsame ▸ h.opening, hsame ▸ h.closing, hdecode⟩
  · intro h
    have hsame := ts.unwrap_of_notMem h.opening
    constructor
    · rw [hsame]
      exact h.opening
    · rw [hsame]
      exact h.closing
    · rw [hsame, refs.decode_eq_self_iff]
      exact h.reference

theorem Shows.unique {markup text text' : List Char}
    (h : Shows ts refs markup text) (h' : Shows ts refs markup text') :
    text = text' :=
  h.decoded.symm.trans h'.decoded

/-- No character of the text has a meaning in markup. -/
def Plain (text : List Char) : Prop := forall c, c ∈ text -> entity c = [c]

instance (text : List Char) : Decidable (Plain text) :=
  List.decidableBAll (fun c => entity c = [c]) text

theorem Plain.notMem {text : List Char} (h : Plain text) {c : Char}
    (hc : entity c ≠ [c]) : c ∉ text :=
  fun hmem => hc (h c hmem)

theorem Plain.amp_notMem {text : List Char} (h : Plain text) : '&' ∉ text :=
  h.notMem (by decide)

theorem Plain.opening_notMem {text : List Char} (h : Plain text) :
    '<' ∉ text :=
  h.notMem (by decide)

theorem Plain.closing_notMem {text : List Char} (h : Plain text) :
    '>' ∉ text :=
  h.notMem (by decide)

theorem markupFree_append_iff {front : List Char} (h : Plain front)
    (rest : List Char) :
    MarkupFree refs (front ++ rest) <-> MarkupFree refs rest := by
  constructor
  · intro hfree
    refine ⟨fun hmem => hfree.opening (List.mem_append_right front hmem),
      fun hmem => hfree.closing (List.mem_append_right front hmem), ?_⟩
    exact (refs.noReference_append_iff h.amp_notMem rest).mp hfree.reference
  · intro hfree
    constructor
    · rw [List.mem_append, not_or]
      exact ⟨h.opening_notMem, hfree.opening⟩
    · rw [List.mem_append, not_or]
      exact ⟨h.closing_notMem, hfree.closing⟩
    · rw [refs.noReference_append_iff h.amp_notMem]
      exact hfree.reference

theorem shows_of_unwrap {markup front text behind : List Char}
    (hfront : Plain front) (hbehind : Plain behind)
    (h : ts.unwrap markup = front ++ (escaped text ++ behind)) :
    Shows ts refs markup (front ++ (text ++ behind)) := by
  constructor
  · rw [h, List.mem_append, List.mem_append, not_or, not_or]
    exact ⟨hfront.opening_notMem, opening_notMem_escaped text,
      hbehind.opening_notMem⟩
  · rw [h, List.mem_append, List.mem_append, not_or, not_or]
    exact ⟨hfront.closing_notMem, closing_notMem_escaped text,
      hbehind.closing_notMem⟩
  · have hlast := refs.decode_append hbehind.amp_notMem []
    rw [List.append_nil, refs.decode_nil, List.append_nil] at hlast
    rw [h, refs.decode_append hfront.amp_notMem, decode_escaped_append, hlast]

end Markup
end Foundation
end XdsService

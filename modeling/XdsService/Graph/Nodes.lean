import XdsService.Foundation.Interning
import XdsService.Graph.Drawing

/-!
# The nodes of a graph

While the links are resolved, `nodes` numbers the names that were met so far,
less those that every object inherits.  The end of a link is the number of its
name.
-/

namespace XdsService
namespace Graph

open Foundation
open Foundation.Coercion
open Foundation.Program

variable {number : Int -> Int -> List Char}
variable {diagram diagram' : Diagram} {known known' : List String}
variable {name : Option Json} {key : String}

/-!
## One name
-/

/-- The name of the property that a value leads to. -/
def keyOf (number : Int -> Int -> List Char) (name : Option Json) : String :=
  (textOf? number name).getD ""

theorem textOf?_eq_keyOf (h : (textOf? number name).isSome) :
    textOf? number name = some (keyOf number name) := by
  unfold keyOf
  cases htext : textOf? number name with
  | none =>
      rw [htext] at h
      cases h
  | some text => rfl

/-- The table numbers the names that were met, and the objects carry them. -/
structure Names (number : Int -> Int -> List Char) (known : List String)
    (diagram : Diagram) : Prop where
  numbers : Numbers diagram.nodes known
  objects : diagram.objects.map (keyOf number) = known
  own : forall key, key ∈ known -> key ∉ objectPrototype

/-- The names that are known when one more was met. -/
def meet (known : List String) (key : String) : List String :=
  if key ∈ objectPrototype then known else enlist known key

/-- The end of a link with the name, once the names are known. -/
def endpointOf (known : List String) (key : String) : Endpoint :=
  if key ∈ objectPrototype then Endpoint.inherited key
  else Endpoint.node (known.idxOf key)

theorem names_nil (number : Int -> Int -> List Char)
    (hnodes : diagram.nodes = ∅) (hobjects : diagram.objects = []) :
    Names number [] diagram where
  numbers := by
    rw [hnodes]
    exact numbers_empty
  objects := by
    rw [hobjects]
    rfl
  own := by
    intro key hkey
    cases hkey

theorem prefix_meet (known : List String) (key : String) :
    known <+: meet known key := by
  unfold meet
  split
  · exact List.prefix_refl known
  · exact prefix_enlist known key

theorem mem_meet (known : List String) (key : String)
    (h : key ∉ objectPrototype) : key ∈ meet known key := by
  unfold meet
  rw [if_neg h, mem_enlist_iff]
  exact Or.inr rfl

theorem endpointOf_of_prefix (h : known <+: known')
    (hkey : key ∉ objectPrototype -> key ∈ known) :
    endpointOf known' key = endpointOf known key := by
  unfold endpointOf
  by_cases hinherited : key ∈ objectPrototype
  · rw [if_pos hinherited, if_pos hinherited]
  · rw [if_neg hinherited, if_neg hinherited,
      idxOf_of_prefix h (hkey hinherited)]

/-- Nothing but `nodes` and the node objects changed. -/
structure SameDrawings (diagram diagram' : Diagram) : Prop where
  links : diagram'.links = diagram.links
  weighs : diagram'.weighs = diagram.weighs
  drawings : diagram'.drawings = diagram.drawings

theorem SameDrawings.trans {diagram'' : Diagram}
    (h : SameDrawings diagram diagram') (h' : SameDrawings diagram' diagram'') :
    SameDrawings diagram diagram'' :=
  ⟨h'.links.trans h.links, h'.weighs.trans h.weighs,
    h'.drawings.trans h.drawings⟩

theorem run_orThrow {α : Type} {value : Option α} {a : α}
    (h : value = some a) :
    (orThrow value).run diagram = .ok a diagram := by
  rw [h]
  rfl

theorem run_orThrow_none {α : Type} {value : Option α} (h : value = none) :
    (orThrow value).run diagram = .error GraphError.typeError diagram := by
  rw [h]
  rfl

theorem run_nodeNamed (h : Names number known diagram)
    (hkey : textOf? number name = some key) :
    exists diagram',
      (nodeNamed number name).run diagram =
        .ok (endpointOf (meet known key) key) diagram' ∧
      Names number (meet known key) diagram' ∧
      SameDrawings diagram diagram' := by
  unfold nodeNamed
  rw [run_bind_of_ok (run_orThrow hkey), EStateM.run_bind, EStateM.run_get]
  unfold endpointOf meet
  by_cases hinherited : key ∈ objectPrototype
  · have hlookup := h.numbers.lookup_eq_none
      (fun hmem => h.own key hmem hinherited)
    simp only [hlookup, hinherited, if_true]
    exact ⟨diagram, rfl, h, rfl, rfl, rfl⟩
  · by_cases hmem : key ∈ known
    · have hlookup := h.numbers.lookup_of_mem hmem
      simp only [hlookup, hinherited, if_false, enlist_of_mem hmem]
      exact ⟨diagram, rfl, h, rfl, rfl, rfl⟩
    · have hlookup := h.numbers.lookup_eq_none hmem
      have hlength : diagram.objects.length = known.length := by
        rw [← h.objects, List.length_map]
      have hidx : (known ++ [key]).idxOf key = known.length := by
        rw [List.idxOf_append_of_notMem hmem, List.idxOf_cons_self,
          Nat.add_zero]
      simp only [hlookup, hinherited, if_false, enlist_of_notMem hmem, hidx]
      refine ⟨{ diagram with
        nodes := diagram.nodes.insert key diagram.objects.length
        objects := diagram.objects ++ [name] }, ?_, ⟨?_, ?_, ?_⟩, rfl, rfl,
        rfl⟩
      · rw [← hlength]
        rfl
      · show Numbers (diagram.nodes.insert key diagram.objects.length) _
        rw [hlength]
        exact h.numbers.insert hmem
      · rw [List.map_append, h.objects, List.map_singleton]
        simp [keyOf, hkey]
      · intro other hother
        rcases List.mem_append.mp hother with hold | hnew
        · exact h.own other hold
        · rw [List.mem_singleton.mp hnew]
          exact hinherited

/-!
## All the links
-/

def NamedLink.Named (number : Int -> Int -> List Char) (link : NamedLink) :
    Prop :=
  (textOf? number link.source).isSome ∧ (textOf? number link.target).isSome

def meetLink (number : Int -> Int -> List Char) (known : List String)
    (link : NamedLink) : List String :=
  meet (meet known (keyOf number link.source)) (keyOf number link.target)

def meetLinks (number : Int -> Int -> List Char) (known : List String)
    (links : List NamedLink) : List String :=
  links.foldl (meetLink number) known

def NamedLink.resolved (number : Int -> Int -> List Char)
    (known : List String) (link : NamedLink) : Link where
  source := endpointOf known (keyOf number link.source)
  target := endpointOf known (keyOf number link.target)
  type := link.type

theorem prefix_meetLink (known : List String) (link : NamedLink) :
    known <+: meetLink number known link :=
  (prefix_meet known _).trans (prefix_meet _ _)

theorem prefix_meetLinks (known : List String) (links : List NamedLink) :
    known <+: meetLinks number known links := by
  induction links generalizing known with
  | nil => exact List.prefix_refl known
  | cons link links ih => exact (prefix_meetLink known link).trans (ih _)

theorem resolved_of_prefix {link : NamedLink}
    (h : meetLink number known link <+: known') :
    link.resolved number known' =
      ⟨endpointOf (meet known (keyOf number link.source))
        (keyOf number link.source),
      endpointOf (meetLink number known link) (keyOf number link.target),
      link.type⟩ := by
  have hsource := endpointOf_of_prefix ((prefix_meet _ _).trans h)
    (mem_meet known (keyOf number link.source))
  have htarget := endpointOf_of_prefix h
    (mem_meet _ (keyOf number link.target))
  unfold NamedLink.resolved
  rw [hsource, htarget]

theorem run_resolveLink {link : NamedLink} (h : Names number known diagram)
    (hlink : link.Named number) :
    exists diagram',
      (resolveLink number link).run diagram =
        .ok (link.resolved number (meetLink number known link)) diagram' ∧
      Names number (meetLink number known link) diagram' ∧
      SameDrawings diagram diagram' := by
  rcases run_nodeNamed h (textOf?_eq_keyOf hlink.left) with
    ⟨first, hrunFirst, hfirst, hsameFirst⟩
  rcases run_nodeNamed hfirst (textOf?_eq_keyOf hlink.right) with
    ⟨second, hrunSecond, hsecond, hsameSecond⟩
  refine ⟨second, ?_, hsecond, hsameFirst.trans hsameSecond⟩
  unfold resolveLink
  rw [run_bind_of_ok hrunFirst, run_bind_of_ok hrunSecond,
    resolved_of_prefix (List.prefix_refl _)]
  rfl

theorem run_resolveLinks {links : List NamedLink}
    (h : Names number known diagram)
    (hlinks : forall link, link ∈ links -> link.Named number) :
    exists diagram',
      (resolveLinks number links).run diagram =
        .ok (links.map fun link =>
          link.resolved number (meetLinks number known links)) diagram' ∧
      Names number (meetLinks number known links) diagram' ∧
      SameDrawings diagram diagram' := by
  induction links generalizing known diagram with
  | nil => exact ⟨diagram, rfl, h, rfl, rfl, rfl⟩
  | cons link links ih =>
      rcases run_resolveLink h (hlinks link List.mem_cons_self) with
        ⟨first, hrunFirst, hfirst, hsameFirst⟩
      rcases ih hfirst
          (fun other hmem => hlinks other (List.mem_cons_of_mem _ hmem)) with
        ⟨rest, hrunRest, hrest, hsameRest⟩
      refine ⟨rest, ?_, hrest, hsameFirst.trans hsameRest⟩
      have hprefix : meetLink number known link <+:
          meetLinks number (meetLink number known link) links :=
        prefix_meetLinks _ links
      have hlink := resolved_of_prefix hprefix
      unfold resolveLinks
      rw [run_bind_of_ok hrunFirst, run_bind_of_ok hrunRest,
        resolved_of_prefix (List.prefix_refl _), ← hlink]
      rfl

theorem mem_meet_iff {other : String} :
    other ∈ meet known key <->
      other ∈ known ∨ other ∉ objectPrototype ∧ other = key := by
  unfold meet
  split
  · rename_i hinherited
    constructor
    · exact Or.inl
    · rintro (hmem | ⟨hown, rfl⟩)
      · exact hmem
      · exact absurd hinherited hown
  · rename_i hown
    rw [mem_enlist_iff]
    constructor
    · rintro (hmem | rfl)
      · exact Or.inl hmem
      · exact Or.inr ⟨hown, rfl⟩
    · rintro (hmem | ⟨_, rfl⟩)
      · exact Or.inl hmem
      · exact Or.inr rfl

def NamedLink.keys (number : Int -> Int -> List Char) (link : NamedLink) :
    List String :=
  [keyOf number link.source, keyOf number link.target]

theorem mem_meetLinks_iff {links : List NamedLink} :
    key ∈ meetLinks number known links <->
      key ∈ known ∨
        key ∉ objectPrototype ∧ key ∈ links.flatMap (NamedLink.keys number) := by
  induction links generalizing known with
  | nil => simp [meetLinks]
  | cons link links ih =>
      show key ∈ meetLinks number (meetLink number known link) links <-> _
      rw [ih]
      simp only [meetLink, mem_meet_iff, List.flatMap_cons, List.mem_append,
        NamedLink.keys, List.mem_cons, List.not_mem_nil, or_false]
      tauto

end Graph
end XdsService

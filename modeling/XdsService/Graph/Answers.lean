import XdsService.Graph.Nodes

/-!
# What is drawn for an answer

The answer of the binder is drawn if the name of every element can be read and
none is one that every object inherits; the drawing has a link for every name
but "null".
-/

namespace XdsService
namespace Graph

open Foundation
open Foundation.Coercion
open Foundation.Program

variable {number : Int -> Int -> List Char}
variable {diagram diagram' : Diagram} {names : List (Option Json)}

/-!
## What is promised
-/

/-- The name of the element can be read and turned into a text. -/
def Drawable (number : Int -> Int -> List Char) (elem : Met) : Prop :=
  exists name, elem.name = some name ∧ (textOf? number name).isSome

def shownName? (number : Int -> Int -> List Char) (elem : Met) :
    Option (Option Json) :=
  match elem.name with
  | none => none
  | some name =>
      if looselyEquals number "null" name = some true then none else some name

def shownNames (number : Int -> Int -> List Char) (elems : List Met) :
    List (Option Json) :=
  elems.filterMap (shownName? number)

def targetName : Option Json := some (Json.string "target")

def AllOwn (number : Int -> Int -> List Char) (names : List (Option Json)) :
    Prop :=
  forall name, name ∈ names -> keyOf number name ∉ objectPrototype

/-- One of the names leads to `Object.prototype`. -/
def meetsPrototype (number : Int -> Int -> List Char)
    (names : List (Option Json)) : Bool :=
  decide ("__proto__" ∈ names.map (keyOf number))

/-- The end of a link is the node with the name. -/
def LeadsTo (number : Int -> Int -> List Char) (drawing : Drawing)
    (name : Option Json) (endpoint : Endpoint) : Prop :=
  exists address, endpoint = Endpoint.node address ∧
    drawing.names[address]?.map (keyOf number) = some (keyOf number name)

/-- The drawing shows the names: a link for each, a node for each distinct one. -/
structure Depicts (number : Int -> Int -> List Char) (weighs : Bool)
    (names : List (Option Json)) (drawing : Drawing) : Prop where
  length : drawing.links.length = names.length
  link : forall (i : Nat) (name : Option Json) (link : Link),
    names[i]? = some name -> drawing.links[i]? = some link ->
      LeadsTo number drawing name link.source ∧
        LeadsTo number drawing targetName link.target ∧ link.type = "suit"
  same : forall (i j : Nat) (name name' : Option Json) (link link' : Link),
    names[i]? = some name -> names[j]? = some name' ->
      drawing.links[i]? = some link -> drawing.links[j]? = some link' ->
        (link.source = link'.source <->
          keyOf number name = keyOf number name')
  distinct : (drawing.names.map (keyOf number)).Nodup
  drawnOnce : drawing.nodes.Perm (List.range drawing.names.length)
  complete : forall key, key ∈ drawing.names.map (keyOf number) <->
    key ∈ names.map (keyOf number) ∨ names ≠ [] ∧ key = "target"
  stray : drawing.stray =
    (weighs && decide ("weight" ∉ names.map (keyOf number)))

/-!
## Collecting the links
-/

def linkFrom (name : Option Json) : NamedLink := ⟨name, targetName, "suit"⟩

theorem looselyEquals_isSome (text : String) {name : Option Json}
    (h : (textOf? number name).isSome) :
    exists equal, looselyEquals number text name = some equal := by
  unfold looselyEquals
  split
  · exact ⟨_, rfl⟩
  · rcases Option.isSome_iff_exists.mp h with ⟨value, hvalue⟩
    rw [show textOf number _ = some value from hvalue]
    exact ⟨_, rfl⟩
  · rcases Option.isSome_iff_exists.mp h with ⟨value, hvalue⟩
    rw [show textOf number _ = some value from hvalue]
    exact ⟨_, rfl⟩
  · exact ⟨false, rfl⟩

/-- What throws when it is compared with a text also throws as a name. -/
theorem looselyEquals_eq_none {text : String} {name : Option Json}
    (h : textOf? number name = none) :
    looselyEquals number text name = none := by
  cases name with
  | none => cases h
  | some value =>
      cases value with
      | null => cases h
      | bool value => cases h
      | int value => cases h
      | double mantissa exponent => cases h
      | string value => cases h
      | array items =>
          show (textOf number (Json.array items)).map _ = none
          rw [show textOf number (Json.array items) = none from h]
          rfl
      | object members =>
          show (textOf number (Json.object members)).map _ = none
          rw [show textOf number (Json.object members) = none from h]
          rfl

def Diagram.withLinks (diagram : Diagram) (names : List (Option Json)) :
    Diagram :=
  { diagram with links := diagram.links ++ names.map linkFrom }

theorem run_pushLink {elem : Met} (h : Drawable number elem)
    (diagram : Diagram) :
    (pushLink number elem).run diagram =
      .ok () (diagram.withLinks (shownName? number elem).toList) := by
  rcases h with ⟨name, hname, htext⟩
  rcases looselyEquals_isSome "null" htext with ⟨equal, hequal⟩
  unfold pushLink shownName?
  rw [run_bind_of_ok (run_orThrow hname), run_bind_of_ok (run_orThrow hequal),
    hname]
  simp only [hequal]
  cases equal with
  | true =>
      simp only [if_true, Diagram.withLinks, Option.toList_none, List.map_nil,
        List.append_nil]
      rfl
  | false =>
      simp only [Diagram.withLinks]
      rfl

theorem run_pushLink_of_not_drawable {elem : Met}
    (h : ¬ Drawable number elem) :
    (pushLink number elem).run diagram =
      .error GraphError.typeError diagram := by
  unfold pushLink
  cases hname : elem.name with
  | none => exact run_bind_of_error (run_orThrow_none rfl)
  | some name =>
      have htext : textOf? number name = none := by
        cases htext : textOf? number name with
        | none => rfl
        | some text => exact absurd ⟨name, hname, by rw [htext]; rfl⟩ h
      rw [run_bind_of_ok (run_orThrow rfl)]
      exact run_bind_of_error
        (run_orThrow_none (looselyEquals_eq_none htext))

theorem withLinks_withLinks (first second : List (Option Json)) :
    (diagram.withLinks first).withLinks second =
      diagram.withLinks (first ++ second) := by
  simp [Diagram.withLinks]

theorem run_pushLinks {elems : List Met}
    (h : forall elem, elem ∈ elems -> Drawable number elem)
    (diagram : Diagram) :
    (elems.forM (pushLink number)).run diagram =
      .ok () (diagram.withLinks (shownNames number elems)) := by
  induction elems generalizing diagram with
  | nil =>
      simp only [Diagram.withLinks, shownNames, List.filterMap_nil,
        List.map_nil, List.append_nil]
      rfl
  | cons elem elems ih =>
      have hfirst := run_pushLink (h elem List.mem_cons_self) diagram
      have hrest := ih
        (fun other hmem => h other (List.mem_cons_of_mem _ hmem))
        (diagram.withLinks (shownName? number elem).toList)
      show (pushLink number elem >>= fun _ => elems.forM (pushLink number)).run
        diagram = _
      rw [run_bind_of_ok hfirst, hrest, withLinks_withLinks]
      congr 2
      unfold shownNames
      cases hname : shownName? number elem with
      | none => rw [List.filterMap_cons_none hname]; rfl
      | some name => rw [List.filterMap_cons_some hname]; rfl

theorem named_linkFrom {elems : List Met}
    (h : forall elem, elem ∈ elems -> Drawable number elem)
    {name : Option Json} (hname : name ∈ shownNames number elems) :
    (linkFrom name).Named number := by
  rcases List.mem_filterMap.mp hname with ⟨elem, hmem, hshown⟩
  rcases h elem hmem with ⟨name', hname', htext⟩
  unfold shownName? at hshown
  rw [hname'] at hshown
  simp only at hshown
  split at hshown
  · cases hshown
  · cases hshown
    exact ⟨htext, rfl⟩

/-!
## What was drawn
-/

section Depicts

variable {known : List String} {key key' : String}

/-- The names are known after the links that were pushed for them. -/
def knownFrom (number : Int -> Int -> List Char) (names : List (Option Json)) :
    List String :=
  meetLinks number [] (names.map linkFrom)

theorem mem_knownFrom_iff :
    key ∈ knownFrom number names <->
      key ∉ objectPrototype ∧
        (key ∈ names.map (keyOf number) ∨ names ≠ [] ∧ key = "target") := by
  have htarget : keyOf number targetName = "target" := rfl
  unfold knownFrom
  rw [mem_meetLinks_iff]
  have hkeys : key ∈ (names.map linkFrom).flatMap (NamedLink.keys number) <->
      key ∈ names.map (keyOf number) ∨ names ≠ [] ∧ key = "target" := by
    rw [List.flatMap_map]
    induction names with
    | nil => simp
    | cons name names ih =>
        rw [List.flatMap_cons, List.mem_append, ih, List.map_cons,
          List.mem_cons]
        simp only [NamedLink.keys, linkFrom, htarget, List.mem_cons,
          List.not_mem_nil, or_false, ne_eq, reduceCtorEq, not_false_eq_true,
          true_and]
        tauto
  rw [hkeys]
  simp

theorem mem_knownFrom_of_mem {name : Option Json} (h : name ∈ names)
    (hown : keyOf number name ∉ objectPrototype) :
    keyOf number name ∈ knownFrom number names :=
  mem_knownFrom_iff.mpr ⟨hown, Or.inl (List.mem_map_of_mem h)⟩

theorem endpointOf_inj (hkey : key ∉ objectPrototype -> key ∈ known) :
    endpointOf known key = endpointOf known key' <-> key = key' := by
  constructor
  · intro h
    unfold endpointOf at h
    by_cases hinherited : key ∈ objectPrototype
    · rw [if_pos hinherited] at h
      split at h
      · injection h
      · cases h
    · rw [if_neg hinherited] at h
      split at h
      · cases h
      · injection h with hidx
        exact (List.idxOf_inj (hkey hinherited)).mp hidx
  · rintro rfl
    rfl

theorem endpointOf_of_own (known : List String)
    (h : key ∉ objectPrototype) :
    endpointOf known key = Endpoint.node (known.idxOf key) :=
  if_neg h

theorem leadsTo_endpointOf (h : Names number known diagram)
    {name : Option Json} {drawing : Drawing}
    (hnames : drawing.names = diagram.objects)
    (hown : keyOf number name ∉ objectPrototype)
    (hkey : keyOf number name ∈ known) :
    LeadsTo number drawing name (endpointOf known (keyOf number name)) := by
  refine ⟨_, endpointOf_of_own known hown, ?_⟩
  rw [hnames, ← List.getElem?_map, h.objects]
  exact getElem?_idxOf_of_mem hkey

@[simp] theorem drawing_names (diagram : Diagram) (links : List Link) :
    (diagram.drawing links).names = diagram.objects := rfl

@[simp] theorem drawing_nodes (diagram : Diagram) (links : List Link) :
    (diagram.drawing links).nodes = diagram.values := rfl

@[simp] theorem drawing_links (diagram : Diagram) (links : List Link) :
    (diagram.drawing links).links = links := rfl

theorem targetName_own (number : Int -> Int -> List Char) :
    keyOf number targetName ∉ objectPrototype := by
  show "target" ∉ objectPrototype
  decide

/-- The links of the names, once all names are known. -/
def resolvedLinks (number : Int -> Int -> List Char)
    (names : List (Option Json)) : List Link :=
  (names.map linkFrom).map fun link =>
    link.resolved number (knownFrom number names)

theorem resolvedLinks_getElem? {i : Nat} {name : Option Json} {link : Link}
    (hname : names[i]? = some name)
    (hlink : (resolvedLinks number names)[i]? = some link) :
    link = (linkFrom name).resolved number (knownFrom number names) := by
  unfold resolvedLinks at hlink
  rw [List.getElem?_map, List.getElem?_map, hname] at hlink
  exact (Option.some.inj hlink).symm

theorem length_values (h : Names number known diagram) :
    diagram.values.length = known.length := by
  have hperm := h.numbers.values_perm.length_eq
  rwa [List.length_range] at hperm

theorem stray_of_names (h : Names number (knownFrom number names) diagram) :
    diagram.stray =
      (diagram.weighs && decide ("weight" ∉ names.map (keyOf number))) := by
  have hknown : "weight" ∈ knownFrom number names <->
      "weight" ∈ names.map (keyOf number) := by
    rw [mem_knownFrom_iff]
    have hown : "weight" ∉ objectPrototype := by
      decide
    have htarget : ¬ "weight" = "target" := by
      decide
    simp only [hown, htarget, not_false_eq_true, true_and, and_false, or_false]
  unfold Diagram.stray
  simp only [h.numbers.mem_iff, hknown]

theorem depicts_of_names (h : Names number (knownFrom number names) diagram)
    (hown : AllOwn number names) :
    Depicts number diagram.weighs names
      (diagram.drawing (resolvedLinks number names)) := by
  constructor
  · simp [resolvedLinks]
  · intro i name link hname hlink
    have hmem := List.mem_of_getElem? hname
    rw [resolvedLinks_getElem? hname hlink]
    refine ⟨leadsTo_endpointOf h rfl (hown name hmem)
      (mem_knownFrom_of_mem hmem (hown name hmem)),
      leadsTo_endpointOf h rfl (targetName_own number) ?_, rfl⟩
    exact mem_knownFrom_iff.mpr
      ⟨targetName_own number, Or.inr ⟨List.ne_nil_of_mem hmem, rfl⟩⟩
  · intro i j name name' link link' hname hname' hlink hlink'
    rw [resolvedLinks_getElem? hname hlink,
      resolvedLinks_getElem? hname' hlink']
    exact endpointOf_inj
      (mem_knownFrom_of_mem (List.mem_of_getElem? hname))
  · rw [drawing_names, h.objects]
    exact h.numbers.nodup
  · have hlength : diagram.objects.length =
        (knownFrom number names).length := by
      rw [← h.objects, List.length_map]
    rw [drawing_names, drawing_nodes, hlength]
    exact h.numbers.values_perm
  · intro key
    rw [drawing_names, h.objects, mem_knownFrom_iff]
    constructor
    · exact And.right
    · intro hkey
      refine ⟨?_, hkey⟩
      rcases hkey with hname | ⟨_, rfl⟩
      · rcases List.mem_map.mp hname with ⟨name, hmem, rfl⟩
        exact hown name hmem
      · exact targetName_own number
  · exact stray_of_names h

/-!
## Starting d3
-/

theorem mem_allEnds_resolvedLinks {endpoint : Endpoint} :
    endpoint ∈ allEnds (resolvedLinks number names) <->
      exists name, name ∈ names ∧
        (endpoint = endpointOf (knownFrom number names) (keyOf number name) ∨
          endpoint = endpointOf (knownFrom number names) "target") := by
  simp only [allEnds, resolvedLinks, List.mem_flatMap, List.mem_map,
    exists_exists_and_eq_and, Link.ends, List.mem_cons, List.not_mem_nil,
    or_false]
  rfl

theorem isInherited_endpointOf :
    (endpointOf known key).isInherited = true <-> key ∈ objectPrototype := by
  unfold endpointOf
  split
  · exact iff_of_true rfl ‹_›
  · exact iff_of_false Bool.false_ne_true ‹_›

theorem endpointOf_eq_prototype :
    Endpoint.prototype = endpointOf known key <-> key = "__proto__" := by
  unfold endpointOf
  split
  · exact ⟨fun h => (Endpoint.inherited.inj h).symm, fun h => by rw [h]; rfl⟩
  · rename_i hown
    refine ⟨fun h => (by cases h), ?_⟩
    rintro rfl
    exact absurd (by decide) hown

theorem prototype_mem_allEnds :
    decide (Endpoint.prototype ∈ allEnds (resolvedLinks number names)) =
      meetsPrototype number names := by
  unfold meetsPrototype
  rw [Bool.eq_iff_iff, decide_eq_true_iff, decide_eq_true_iff,
    mem_allEnds_resolvedLinks, List.mem_map]
  apply exists_congr
  intro name
  rw [endpointOf_eq_prototype, endpointOf_eq_prototype]
  have htarget : ¬ "target" = "__proto__" := by
    decide
  simp only [htarget, or_false]

theorem any_isInherited_iff :
    (allEnds (resolvedLinks number names)).any Endpoint.isInherited = true <->
      ¬ AllOwn number names := by
  rw [List.any_eq_true]
  unfold AllOwn
  simp only [not_forall, not_not, exists_prop]
  constructor
  · rintro ⟨endpoint, hmem, hinherited⟩
    rcases mem_allEnds_resolvedLinks.mp hmem with ⟨name, hname, rfl | rfl⟩
    · exact ⟨name, hname, isInherited_endpointOf.mp hinherited⟩
    · exact absurd (isInherited_endpointOf.mp hinherited) (by decide)
  · rintro ⟨name, hname, hinherited⟩
    exact ⟨_, mem_allEnds_resolvedLinks.mpr ⟨name, hname, Or.inl rfl⟩,
      isInherited_endpointOf.mpr hinherited⟩

def Diagram.counted (number : Int -> Int -> List Char) (diagram : Diagram)
    (names : List (Option Json)) : Diagram :=
  { diagram with weighs := diagram.weighs || meetsPrototype number names }

theorem run_forceStart_of_own (diagram : Diagram)
    (hown : AllOwn number names) (nodes : Nat) :
    (forceStart nodes (resolvedLinks number names)).run diagram =
      .ok () (diagram.counted number names) := by
  have hany : (allEnds (resolvedLinks number names)).any
      Endpoint.isInherited = false := by
    rw [← Bool.not_eq_true, any_isInherited_iff, not_not]
    exact hown
  unfold forceStart
  rw [prototype_mem_allEnds, hany, Bool.and_false]
  rfl

theorem run_forceStart_of_inherited (diagram : Diagram)
    (hown : ¬ AllOwn number names)
    {nodes : Nat} (hnodes : 0 < nodes) :
    (forceStart nodes (resolvedLinks number names)).run diagram =
      .error GraphError.typeError (diagram.counted number names) := by
  unfold forceStart
  rw [prototype_mem_allEnds, any_isInherited_iff.mpr hown,
    decide_eq_true hnodes, Bool.and_self]
  rfl

theorem meetsPrototype_of_own (h : AllOwn number names) :
    meetsPrototype number names = false := by
  unfold meetsPrototype
  rw [decide_eq_false_iff_not, List.mem_map]
  rintro ⟨name, hmem, hkey⟩
  apply h name hmem
  rw [hkey]
  decide

theorem counted_of_own (h : AllOwn number names) :
    diagram.counted number names = diagram := by
  unfold Diagram.counted
  rw [meetsPrototype_of_own h, Bool.or_false]

theorem exists_resolved (hempty : Names number [] diagram)
    (hlinks : diagram.links = names.map linkFrom)
    (hnamed : forall name, name ∈ names -> (linkFrom name).Named number) :
    exists resolved,
      Names number (knownFrom number names) resolved ∧
      SameDrawings diagram resolved ∧
      (graphMobilePatentSuits number).run diagram =
        (forceStart (resolved.values.length + resolved.stray.toNat)
          (resolvedLinks number names) >>= fun _ => modify fun started =>
            { started with drawings := started.drawings ++
              [resolved.drawing (resolvedLinks number names)] }).run
          resolved := by
  rcases run_resolveLinks hempty (fun link hlink => by
      rcases List.mem_map.mp hlink with ⟨name, hname, rfl⟩
      exact hnamed name hname) with ⟨resolved, hrun, hresolved, hsame⟩
  refine ⟨resolved, hresolved, hsame, ?_⟩
  unfold graphMobilePatentSuits
  rw [EStateM.run_bind, EStateM.run_get]
  show ((resolveLinks number diagram.links) >>= _).run diagram = _
  rw [hlinks, run_bind_of_ok hrun, EStateM.run_bind, EStateM.run_get]
  rfl

theorem values_pos (h : Names number (knownFrom number names) diagram)
    (hown : ¬ AllOwn number names) : 0 < diagram.values.length := by
  have hne : names ≠ [] := by
    rintro rfl
    exact hown fun name hmem => by cases hmem
  have htarget : "target" ∈ knownFrom number names :=
    mem_knownFrom_iff.mpr ⟨targetName_own number,
      Or.inr ⟨hne, rfl⟩⟩
  rw [length_values h]
  exact List.length_pos_of_mem htarget

end Depicts

/-!
## Answers
-/

def Diagram.cleared (diagram : Diagram) : Diagram :=
  { diagram with links := [], nodes := ∅, objects := [] }

theorem run_clear (diagram : Diagram) :
    clear.run diagram = .ok () diagram.cleared := rfl

/-- The answer can be read, and so can the names of its elements. -/
def AnswerDrawable (number : Int -> Int -> List Char) (res : Option Json) :
    Prop :=
  exists response, property "response" res = some response ∧
    forall elem, elem ∈ elements response -> Drawable number (Met.own elem)

def answerNames (number : Int -> Int -> List Char) (weighs : Bool)
    (res : Option Json) : List (Option Json) :=
  match property "response" res with
  | none => []
  | some response => shownNames number (met weighs response)

theorem drawable_weight : Drawable number Met.weight := ⟨none, rfl, rfl⟩

theorem forall_met_iff {weighs : Bool} {response : Option Json} :
    (forall elem, elem ∈ met weighs response -> Drawable number elem) <->
      forall elem, elem ∈ elements response ->
        Drawable number (Met.own elem) := by
  unfold met
  constructor
  · intro h elem hmem
    exact h _ (List.mem_append_left _ (List.mem_map_of_mem hmem))
  · intro h elem hmem
    rcases List.mem_append.mp hmem with hmem | hmem
    · rcases List.mem_map.mp hmem with ⟨own, hown, rfl⟩
      exact h own hown
    · split at hmem
      · rw [List.mem_singleton.mp hmem]
        exact drawable_weight
      · cases hmem

/-- Behind the own names stands that of the inherited value, undefined. -/
theorem shownNames_met (weighs : Bool) (response : Option Json) :
    shownNames number (met weighs response) =
      shownNames number ((elements response).map Met.own) ++
        if weighs && inheritsWeight response then [none] else [] := by
  unfold met shownNames
  rw [List.filterMap_append]
  split
  · rfl
  · rfl

def Diagram.pushed (number : Int -> Int -> List Char) (diagram : Diagram)
    (res : Option Json) : Diagram :=
  diagram.cleared.withLinks (answerNames number diagram.weighs res)

theorem run_drawAnswer {res : Option Json} (h : AnswerDrawable number res)
    (diagram : Diagram) :
    (drawAnswer number res).run diagram =
      (graphMobilePatentSuits number).run (diagram.pushed number res) := by
  rcases h with ⟨response, hresponse, helems⟩
  unfold Diagram.pushed answerNames
  rw [hresponse]
  unfold drawAnswer
  rw [run_bind_of_ok (run_clear diagram),
    run_bind_of_ok (run_orThrow hresponse), EStateM.run_bind, EStateM.run_get]
  exact run_bind_of_ok (run_pushLinks (forall_met_iff.mpr helems) _)

theorem exists_resolved_of_drawable {res : Option Json}
    (h : AnswerDrawable number res) (diagram : Diagram) :
    exists resolved,
      Names number (knownFrom number (answerNames number diagram.weighs res))
        resolved ∧
      SameDrawings (diagram.pushed number res) resolved ∧
      (drawAnswer number res).run diagram =
        (forceStart (resolved.values.length + resolved.stray.toNat)
          (resolvedLinks number (answerNames number diagram.weighs res)) >>=
            fun _ => modify fun started =>
              { started with drawings := started.drawings ++
                [resolved.drawing (resolvedLinks number
                  (answerNames number diagram.weighs res))] }).run
          resolved := by
  rw [run_drawAnswer h diagram]
  apply exists_resolved (names_nil number rfl rfl) rfl
  rcases h with ⟨response, hresponse, helems⟩
  intro name hname
  unfold answerNames at hname
  rw [hresponse] at hname
  exact named_linkFrom (forall_met_iff.mpr helems) hname

theorem run_drawAnswer_of_own {res : Option Json}
    (h : AnswerDrawable number res)
    (hown : AllOwn number (answerNames number diagram.weighs res)) :
    exists diagram' drawing,
      (drawAnswer number res).run diagram = .ok () diagram' ∧
      diagram'.drawings = diagram.drawings ++ [drawing] ∧
      diagram'.weighs = diagram.weighs ∧
      Depicts number diagram.weighs (answerNames number diagram.weighs res)
        drawing := by
  rcases exists_resolved_of_drawable h diagram with
    ⟨resolved, hnames, hsame, hrun⟩
  have hstart := run_forceStart_of_own resolved hown
    (resolved.values.length + resolved.stray.toNat)
  rw [counted_of_own hown] at hstart
  rw [run_bind_of_ok hstart] at hrun
  have hdepicts := depicts_of_names hnames hown
  rw [hsame.weighs] at hdepicts
  exact ⟨_, _, hrun, congrArg (· ++ [_]) hsame.drawings, hsame.weighs, hdepicts⟩

/-- A name that every object inherits stops d3 before anything is drawn. -/
theorem run_drawAnswer_of_inherited {res : Option Json}
    (h : AnswerDrawable number res)
    (hown : ¬ AllOwn number (answerNames number diagram.weighs res)) :
    exists diagram',
      (drawAnswer number res).run diagram =
        .error GraphError.typeError diagram' ∧
      diagram'.drawings = diagram.drawings ∧
      diagram'.weighs = (diagram.weighs ||
        meetsPrototype number (answerNames number diagram.weighs res)) := by
  rcases exists_resolved_of_drawable h diagram with
    ⟨resolved, hnames, hsame, hrun⟩
  have hstart := run_forceStart_of_inherited resolved hown
    (Nat.add_pos_left (values_pos hnames hown) resolved.stray.toNat)
  rw [run_bind_of_error hstart] at hrun
  exact ⟨_, hrun, hsame.drawings, congrArg (· || _) hsame.weighs⟩

theorem run_pushLinks_of_not_drawable {elems : List Met}
    (h : ¬ forall elem, elem ∈ elems -> Drawable number elem)
    (diagram : Diagram) :
    exists diagram',
      (elems.forM (pushLink number)).run diagram =
        .error GraphError.typeError diagram' ∧
      diagram'.drawings = diagram.drawings ∧
      diagram'.weighs = diagram.weighs := by
  induction elems generalizing diagram with
  | nil =>
      exact absurd (fun elem hmem => by cases hmem) h
  | cons elem elems ih =>
      show exists diagram',
        (pushLink number elem >>= fun _ => elems.forM (pushLink number)).run
          diagram = _ ∧ _
      by_cases hfirst : Drawable number elem
      · have hrest : ¬ forall elem, elem ∈ elems -> Drawable number elem := by
          intro hall
          apply h
          intro other hmem
          rcases List.mem_cons.mp hmem with rfl | hmem
          · exact hfirst
          · exact hall other hmem
        rcases ih hrest (diagram.withLinks (shownName? number elem).toList)
          with ⟨diagram', hrun, hsame⟩
        refine ⟨diagram', ?_, hsame⟩
        rw [run_bind_of_ok (run_pushLink hfirst diagram)]
        exact hrun
      · exact ⟨diagram,
          run_bind_of_error (run_pushLink_of_not_drawable hfirst), rfl, rfl⟩

/-- An answer that cannot be read is not drawn, and older drawings stay. -/
theorem run_drawAnswer_of_not_drawable {res : Option Json}
    (h : ¬ AnswerDrawable number res) (diagram : Diagram) :
    exists diagram',
      (drawAnswer number res).run diagram =
        .error GraphError.typeError diagram' ∧
      diagram'.drawings = diagram.drawings ∧
      diagram'.weighs = diagram.weighs := by
  unfold drawAnswer
  rw [run_bind_of_ok (run_clear diagram)]
  cases hresponse : property "response" res with
  | none => exact ⟨_, run_bind_of_error (run_orThrow_none rfl), rfl, rfl⟩
  | some response =>
      have helems : ¬ forall elem, elem ∈ met diagram.weighs response ->
          Drawable number elem :=
        fun hall => h ⟨response, hresponse, forall_met_iff.mp hall⟩
      rcases run_pushLinks_of_not_drawable helems diagram.cleared with
        ⟨diagram', hrun, hsame⟩
      refine ⟨diagram', ?_, hsame⟩
      rw [run_bind_of_ok (run_orThrow rfl), EStateM.run_bind, EStateM.run_get]
      exact run_bind_of_error hrun

/-!
## One answer after another
-/

def drawnAfter (number : Int -> Int -> List Char) (diagram : Diagram)
    (answers : List (Option Json)) : Diagram :=
  answers.foldl
    (fun diagram answer => finalState ((drawAnswer number answer).run diagram))
    diagram

/--
The drawings for answers, one after another, on a page where `Object.prototype`
has a `weight` or not: an answer that can be read is drawn with its own names
unless one of them is inherited, and any other is left out.
-/
inductive Drawn (number : Int -> Int -> List Char) :
    Bool -> List (Option Json) -> List Drawing -> Prop where
  | nil {weighs : Bool} : Drawn number weighs [] []
  | drawn {weighs : Bool} {answers : List (Option Json)}
      {drawings : List Drawing} {answer : Option Json} {drawing : Drawing} :
      AnswerDrawable number answer ->
      AllOwn number (answerNames number weighs answer) ->
      Depicts number weighs (answerNames number weighs answer) drawing ->
      Drawn number weighs answers drawings ->
      Drawn number weighs (answer :: answers) (drawing :: drawings)
  | inherited {weighs : Bool} {answers : List (Option Json)}
      {drawings : List Drawing} {answer : Option Json} :
      AnswerDrawable number answer ->
      ¬ AllOwn number (answerNames number weighs answer) ->
      Drawn number
        (weighs || meetsPrototype number (answerNames number weighs answer))
        answers drawings ->
      Drawn number weighs (answer :: answers) drawings
  | refused {weighs : Bool} {answers : List (Option Json)}
      {drawings : List Drawing} {answer : Option Json} :
      ¬ AnswerDrawable number answer ->
      Drawn number weighs answers drawings ->
      Drawn number weighs (answer :: answers) drawings

theorem exists_drawn (answers : List (Option Json)) (diagram : Diagram) :
    exists drawings,
      (drawnAfter number diagram answers).drawings =
        diagram.drawings ++ drawings ∧
      Drawn number diagram.weighs answers drawings := by
  induction answers generalizing diagram with
  | nil => exact ⟨[], (List.append_nil _).symm, Drawn.nil⟩
  | cons answer answers ih =>
      have hcons : drawnAfter number diagram (answer :: answers) =
          drawnAfter number
            (finalState ((drawAnswer number answer).run diagram)) answers :=
        rfl
      rw [hcons]
      by_cases hanswer : AnswerDrawable number answer
      · by_cases hown : AllOwn number
            (answerNames number diagram.weighs answer)
        · rcases run_drawAnswer_of_own hanswer hown with
            ⟨diagram', drawing, hrun, hmore, hweighs, hdepicts⟩
          rw [hrun, finalState_ok]
          rcases ih diagram' with ⟨drawings, hdrawings, hdrawn⟩
          rw [hweighs] at hdrawn
          refine ⟨drawing :: drawings, ?_,
            Drawn.drawn hanswer hown hdepicts hdrawn⟩
          rw [hdrawings, hmore, List.append_assoc, List.singleton_append]
        · rcases run_drawAnswer_of_inherited hanswer hown with
            ⟨diagram', hrun, hsame, hweighs⟩
          rw [hrun, finalState_error]
          rcases ih diagram' with ⟨drawings, hdrawings, hdrawn⟩
          rw [hweighs] at hdrawn
          exact ⟨drawings, hsame ▸ hdrawings,
            Drawn.inherited hanswer hown hdrawn⟩
      · rcases run_drawAnswer_of_not_drawable hanswer diagram with
          ⟨diagram', hrun, hsame, hweighs⟩
        rw [hrun, finalState_error]
        rcases ih diagram' with ⟨drawings, hdrawings, hdrawn⟩
        rw [hweighs] at hdrawn
        exact ⟨drawings, hsame ▸ hdrawings, Drawn.refused hanswer hdrawn⟩

theorem drawings_drawnAfter (number : Int -> Int -> List Char)
    (diagram : Diagram) (answers : List (Option Json)) :
    exists drawings,
      (drawnAfter number diagram answers).drawings =
        diagram.drawings ++ drawings ∧
      Drawn number diagram.weighs answers drawings :=
  exists_drawn answers diagram

end Graph
end XdsService

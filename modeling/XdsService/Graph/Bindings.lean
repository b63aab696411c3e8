import Mathlib.Data.List.Forall2
import XdsService.Graph.Answers
import XdsService.Supervisor.SelfTrace
import XdsService.Supervisor.Stored

/-!
# The drawn fleet

The page draws what the verb `list` of the plugin answers with.  A daemon that
has a name in the table of the plugin becomes the source of a link.  A table with
an entry that could not be packed is not drawn at all, nor is one with a daemon
whose name every object inherits.
-/

namespace XdsService
namespace Graph

open Foundation
open Foundation.Coercion
open Foundation.Program
open Supervisor

variable {number : Int -> Int -> List Char}
variable {lib : Libs} {env : Env} {apiname : Option String}
variable {w w' : World} {d : Daemon} {m : RequestMove}

/-!
## What is sent
-/

/-- The object that is packed at the format `{si ss sb sb so so so}`. -/
def itemJson (item : ListItem) : Json :=
  Json.object [("pid", Json.int item.pid),
    ("name", item.name.elim Json.null Json.string),
    ("isServer", Json.bool item.isServer),
    ("isClient", Json.bool item.isClient), ("ws_servers", item.wsServers),
    ("ws_clients", item.wsClients), ("apis", item.apis)]

/-- An element of the array; NULL where nothing could be packed. -/
def elementJson : Option ListItem -> Json
  | none => Json.null
  | some item => itemJson item

def payloadJson : Payload -> Json
  | Payload.null => Json.null
  | Payload.pids pids => Json.array (pids.map Json.int)
  | Payload.daemons items => Json.array (items.map elementJson)

/-- `wrap_json_pack` packs no text that is NULL. -/
def PacksNoNull (lib : Libs) : Prop :=
  forall item : ListItem, lib.packs item = true -> item.name ≠ none

/-- What the page gets for the request is the response that was sent. -/
def Carries (res : Option Json) (m : RequestMove) : Prop :=
  exists payload info, Event.success payload info ∈ events m ∧
    property "response" res = some (some (payloadJson payload))

def isList : Request -> Bool
  | Request.list => true
  | _ => false

def answersList (m : RequestMove) : Bool :=
  isList m.action && decide (m.answer = 0)

/-- The daemons that a list request finds, none where the fleet is not read. -/
def fleetAt (lib : Libs) (env : Env) (apiname : Option String)
    (log : List Event) : List Daemon :=
  if 0 ≤ (discoverReply env log).rc ∧ 0 ≤ (listReply env log).rc then
    (collectedAnswers lib env apiname log).filterMap
      (Answers.listed lib apiname)
  else
    []

def allPacked (lib : Libs) (fleet : List Daemon) : Bool :=
  fleet.all fun d => lib.packs (listItem d)

/-!
## What is promised
-/

/-- The names in the fleet, less those that stand for a missing one. -/
def linkNames (fleet : List Daemon) : List (Option Json) :=
  ((fleet.filterMap Daemon.name).filter fun name => decide (name ≠ "null")).map
    fun name => some (Json.string name)

/-- Behind the fleet stands an inherited `weight`, whose name is undefined. -/
def fleetNames (weighs : Bool) (fleet : List Daemon) : List (Option Json) :=
  linkNames fleet ++ if weighs then [none] else []

def OwnNames (fleet : List Daemon) : Prop :=
  forall d, d ∈ fleet -> forall name, d.name = some name ->
    name ∉ objectPrototype

instance (fleet : List Daemon) : Decidable (OwnNames fleet) :=
  decidable_of_iff (fleet.all fun d =>
      d.name.all fun name => decide (name ∉ objectPrototype))
    (by simp only [List.all_eq_true, Option.all_eq_true, decide_eq_true_eq,
      OwnNames])

def namesPrototype (fleet : List Daemon) : Bool :=
  fleet.any fun d => decide (d.name = some "__proto__")

/-- The drawing shows the fleet, and not the service itself. -/
structure ShowsFleet (number : Int -> Int -> List Char)
    (apiname : Option String) (weighs : Bool) (fleet : List Daemon)
    (drawing : Drawing) : Prop where
  depicts : Depicts number weighs (fleetNames weighs fleet) drawing
  others : forall api, apiname = some api -> forall d, d ∈ fleet ->
    exists name, d.name = some name ∧ ¬ api.toList <:+: name.toList

/--
The drawings for list requests, one after another, on a page where
`Object.prototype` has a `weight` or not.
-/
inductive FleetsDrawn (number : Int -> Int -> List Char) (lib : Libs)
    (env : Env) (apiname : Option String) :
    Bool -> List RequestMove -> List Drawing -> Prop where
  | nil {weighs : Bool} : FleetsDrawn number lib env apiname weighs [] []
  | drawn {weighs : Bool} {lists : List RequestMove} {drawings : List Drawing}
      {m : RequestMove} {drawing : Drawing} :
      allPacked lib (fleetAt lib env apiname m.before.log) = true ->
      OwnNames (fleetAt lib env apiname m.before.log) ->
      ShowsFleet number apiname weighs
        (fleetAt lib env apiname m.before.log) drawing ->
      FleetsDrawn number lib env apiname weighs lists drawings ->
      FleetsDrawn number lib env apiname weighs (m :: lists)
        (drawing :: drawings)
  | inherited {weighs : Bool} {lists : List RequestMove}
      {drawings : List Drawing} {m : RequestMove} :
      allPacked lib (fleetAt lib env apiname m.before.log) = true ->
      ¬ OwnNames (fleetAt lib env apiname m.before.log) ->
      FleetsDrawn number lib env apiname
        (weighs || namesPrototype (fleetAt lib env apiname m.before.log))
        lists drawings ->
      FleetsDrawn number lib env apiname weighs (m :: lists) drawings
  | unpacked {weighs : Bool} {lists : List RequestMove}
      {drawings : List Drawing} {m : RequestMove} :
      ¬ allPacked lib (fleetAt lib env apiname m.before.log) = true ->
      FleetsDrawn number lib env apiname weighs lists drawings ->
      FleetsDrawn number lib env apiname weighs (m :: lists) drawings

theorem FleetsDrawn.length_eq {weighs : Bool} {lists : List RequestMove}
    {drawings : List Drawing}
    (h : FleetsDrawn number lib env apiname weighs lists drawings)
    (hall : forall m, m ∈ lists ->
      allPacked lib (fleetAt lib env apiname m.before.log) = true ∧
        OwnNames (fleetAt lib env apiname m.before.log)) :
    drawings.length = lists.length := by
  induction h with
  | nil => rfl
  | drawn _ _ _ _ ih =>
      exact congrArg (· + 1)
        (ih fun m hmem => hall m (List.mem_cons_of_mem _ hmem))
  | inherited _ hnames => exact absurd (hall _ List.mem_cons_self).right hnames
  | unpacked hpacked => exact absurd (hall _ List.mem_cons_self).left hpacked

/-!
## One request
-/

theorem daemons_of_getDaemons {rc : Int} {table : DaemonTable}
    (h : (getDaemons lib env apiname).run w = .ok (rc, some table) w') :
    table.daemons = fleetAt lib env apiname w.log := by
  unfold fleetAt
  split
  · rename_i hdiscovers
    have hcompletes := completes_of_run
      ⟨hdiscovers.left, hdiscovers.right⟩ h
    exact hcompletes.right.table
  · rename_i hdiscovers
    have hno : ¬ Discovers env w.log :=
      fun hyes => hdiscovers ⟨hyes.discover, hyes.list⟩
    rcases run_getDaemons_of_undiscovered lib apiname hno with
      ⟨rc', w1, _, hrun⟩
    rw [hrun] at h
    injection h with hfound
    have htable : allocatedTable env w.log = some table :=
      congrArg Prod.snd hfound
    unfold allocatedTable at htable
    split at htable
    · cases htable
      rfl
    · cases htable

/-- A successful list request sends the fleet that it finds, once. -/
theorem eventsSince_list (h : Serves lib env apiname w Request.list 0 w') :
    exists found, (forall e, e ∈ found -> e.isDiscovery = true) ∧
      w.eventsSince w' = found ++ [Event.success (Payload.daemons
        ((fleetAt lib env apiname w.log).map (packDaemon lib))) none] := by
  rcases run_bind_eq_ok h with ⟨⟨rc, found⟩, w1, hget, hanswer⟩
  rcases ((quiet_getDaemons lib env apiname).ok hget).log with
    ⟨asked, hlog, hdiscovery⟩
  cases found with
  | none => cases hanswer
  | some table =>
      cases hanswer
      refine ⟨asked, hdiscovery, ?_⟩
      apply World.eventsSince_of_log
      rw [World.emit_log, hlog, List.append_assoc,
        daemons_of_getDaemons hget]

theorem carries_of_list {res : Option Json}
    (h : Serves lib env apiname w Request.list 0 w')
    (hcarries : Carries res ⟨w, Request.list, 0, w'⟩) :
    property "response" res = some (some (Json.array
      ((fleetAt lib env apiname w.log).map fun d =>
        elementJson (packDaemon lib d)))) := by
  rcases eventsSince_list h with ⟨found, hdiscovery, hevents⟩
  rcases hcarries with ⟨payload, info, hsent, hresponse⟩
  have hsent' : Event.success payload info ∈ w.eventsSince w' := hsent
  rw [hevents] at hsent'
  rcases List.mem_append.mp hsent' with hmem | hmem
  · cases hdiscovery _ hmem
  · cases List.mem_singleton.mp hmem
    rw [hresponse, payloadJson, List.map_map]
    rfl

theorem exists_carries (h : Serves lib env apiname w Request.list 0 w') :
    exists res, Carries res ⟨w, Request.list, 0, w'⟩ := by
  rcases eventsSince_list h with ⟨found, _, hevents⟩
  refine ⟨some (Json.object [("response", payloadJson (Payload.daemons
    ((fleetAt lib env apiname w.log).map (packDaemon lib))))]), _, none, ?_, rfl⟩
  show _ ∈ w.eventsSince w'
  rw [hevents]
  simp

/-!
## One answer
-/

theorem drawable_elementJson_iff :
    Drawable number (Met.own (elementJson (packDaemon lib d))) <->
      lib.packs (listItem d) = true := by
  unfold packDaemon
  constructor
  · rintro ⟨name, hname, _⟩
    by_contra hpacks
    rw [if_neg hpacks] at hname
    cases hname
  · intro hpacks
    rw [if_pos hpacks]
    refine ⟨some (d.name.elim Json.null Json.string), rfl, ?_⟩
    cases d.name with
    | none => rfl
    | some name => rfl

theorem answerDrawable_iff {res : Option Json} {fleet : List Daemon}
    (h : property "response" res = some (some (Json.array
      (fleet.map fun d => elementJson (packDaemon lib d))))) :
    AnswerDrawable number res <-> allPacked lib fleet = true := by
  unfold AnswerDrawable allPacked
  rw [h, List.all_eq_true]
  constructor
  · rintro ⟨response, hresponse, hall⟩ d hd
    cases hresponse
    exact drawable_elementJson_iff.mp
      (hall _ (List.mem_map_of_mem (f := fun d =>
        elementJson (packDaemon lib d)) hd))
  · intro hall
    refine ⟨_, rfl, ?_⟩
    intro elem helem
    rcases List.mem_map.mp helem with ⟨d, hd, rfl⟩
    exact drawable_elementJson_iff.mpr (hall d hd)

theorem shownName?_elementJson (hpacked : lib.packs (listItem d) = true)
    {name : String} (hname : d.name = some name) :
    shownName? number (Met.own (elementJson (packDaemon lib d))) =
      if name = "null" then none else some (some (Json.string name)) := by
  have helement : (Met.own (elementJson (packDaemon lib d))).name =
      some (some (Json.string name)) := by
    unfold packDaemon
    rw [if_pos hpacked]
    show some (some (d.name.elim Json.null Json.string)) = _
    rw [hname]
    rfl
  unfold shownName?
  rw [helement]
  simp [looselyEquals]

theorem shownNames_eq_linkNames
    (number : Int -> Int -> List Char) (hpacks : PacksNoNull lib)
    {fleet : List Daemon} (h : allPacked lib fleet = true) :
    shownNames number ((fleet.map fun d =>
      elementJson (packDaemon lib d)).map Met.own) = linkNames fleet := by
  have hpacked := List.all_eq_true.mp h
  clear h
  induction fleet with
  | nil => rfl
  | cons d fleet ih =>
      have hd := hpacked d List.mem_cons_self
      have hrest := ih fun e he => hpacked e (List.mem_cons_of_mem d he)
      rcases Option.ne_none_iff_exists'.mp (hpacks (listItem d) hd) with
        ⟨name, hname⟩
      have hname' : d.name = some name := hname
      have hshown : shownName? number
          (Met.own (elementJson (packDaemon lib d))) = _ :=
        shownName?_elementJson hd hname'
      unfold shownNames linkNames at hrest ⊢
      rw [List.map_cons, List.map_cons, List.filterMap_cons, hshown, hrest,
        List.filterMap_cons_some hname', List.filter_cons]
      by_cases hnull : name = "null"
      · simp [hnull]
      · simp [hnull]

theorem exists_name_of_mem_fleetAt (hpacks : PacksNoNull lib)
    {api : String} {log : List Event} (hapi : apiname = some api)
    (hd : d ∈ fleetAt lib env apiname log)
    (hpacked : lib.packs (listItem d) = true) :
    exists name, d.name = some name ∧ ¬ api.toList <:+: name.toList := by
  rcases Option.ne_none_iff_exists'.mp (hpacks (listItem d) hpacked) with
    ⟨name, hname⟩
  have hname' : d.name = some name := hname
  refine ⟨name, hname', ?_⟩
  unfold fleetAt at hd
  split at hd
  · rcases List.mem_filterMap.mp hd with ⟨answers, _, hlisted⟩
    rcases listed_eq_some hlisted with
      ⟨_, _, pid, described, _, hdescribed, rfl⟩
    rw [withApis_name] at hname'
    cases hresponse : answers.config.response.getEx "response" with
    | none =>
        unfold describedDaemon at hdescribed
        rw [hresponse] at hdescribed
        cases hdescribed
        cases hname'
    | some config =>
        rcases describedDaemon_eq_some hresponse hdescribed with
          ⟨parts, _, hignored, rfl⟩
        rw [hapi] at hignored
        exact not_infix_of_isIgnored hignored name hname'
  · cases hd

/-!
## One answer after another
-/

theorem serves_of_answersList {moves : List RequestMove}
    (hrun : Run (Serves lib env apiname) w moves w')
    (hm : m ∈ moves.filter answersList) :
    exists before after, m = ⟨before, Request.list, 0, after⟩ ∧
      Serves lib env apiname before Request.list 0 after := by
  have hall := Run.forall_moves (I := fun _ => True)
    (P := fun m => Serves lib env apiname m.before m.action m.answer m.after)
    trivial (fun _ _ => trivial) (fun _ hserves => hserves) hrun
  rcases List.mem_filter.mp hm with ⟨hmem, hanswers⟩
  have hserves := hall m hmem
  rcases m with ⟨before, request, rc, after⟩
  rcases Bool.and_eq_true_iff.mp hanswers with ⟨hlist, hrc⟩
  have hrc' : rc = 0 := of_decide_eq_true hrc
  subst hrc'
  cases request with
  | list => exact ⟨before, after, rfl, hserves⟩
  | traceStart queryJ => cases hlist
  | traceStop => cases hlist

def ListResponse (lib : Libs) (env : Env) (apiname : Option String)
    (res : Option Json) (m : RequestMove) : Prop :=
  property "response" res = some (some (Json.array
    ((fleetAt lib env apiname m.before.log).map fun d =>
      elementJson (packDaemon lib d))))

theorem forall₂_listResponse {lists : List RequestMove}
    {answers : List (Option Json)}
    (hserved : forall m, m ∈ lists -> exists before after,
      m = ⟨before, Request.list, 0, after⟩ ∧
        Serves lib env apiname before Request.list 0 after)
    (h : List.Forall₂ Carries answers lists) :
    List.Forall₂ (ListResponse lib env apiname) answers lists := by
  induction h with
  | nil => exact List.Forall₂.nil
  | cons hcarries hrest ih =>
      rcases hserved _ List.mem_cons_self with ⟨before, after, rfl, hserves⟩
      exact List.Forall₂.cons (carries_of_list hserves hcarries)
        (ih fun m hm => hserved m (List.mem_cons_of_mem _ hm))

theorem mem_linkNames_iff {fleet : List Daemon} {name : Option Json} :
    name ∈ linkNames fleet <->
      exists d text, d ∈ fleet ∧ d.name = some text ∧ text ≠ "null" ∧
        name = some (Json.string text) := by
  unfold linkNames
  simp only [List.mem_map, List.mem_filter, List.mem_filterMap,
    decide_eq_true_eq]
  constructor
  · rintro ⟨text, ⟨⟨d, hd, htext⟩, hnull⟩, rfl⟩
    exact ⟨d, text, hd, htext, hnull, rfl⟩
  · rintro ⟨d, text, hd, htext, hnull, rfl⟩
    exact ⟨text, ⟨⟨d, hd, htext⟩, hnull⟩, rfl⟩

theorem mem_keys_fleetNames {weighs : Bool} {fleet : List Daemon}
    {key : String} (hkey : key ∈ objectPrototype) :
    key ∈ (fleetNames weighs fleet).map (keyOf number) <->
      exists d, d ∈ fleet ∧ d.name = some key := by
  unfold fleetNames
  rw [List.map_append, List.mem_append, List.mem_map]
  constructor
  · rintro (⟨name, hname, rfl⟩ | hundefined)
    · rcases mem_linkNames_iff.mp hname with ⟨d, text, hd, htext, _, rfl⟩
      exact ⟨d, hd, htext⟩
    · split at hundefined
      · have hnone : key = "undefined" := List.mem_singleton.mp hundefined
        rw [hnone] at hkey
        exact absurd hkey (by decide)
      · cases hundefined
  · rintro ⟨d, hd, htext⟩
    refine Or.inl ⟨_, mem_linkNames_iff.mpr ⟨d, key, hd, htext, ?_, rfl⟩, rfl⟩
    rintro rfl
    exact absurd hkey (by decide)

theorem allOwn_fleetNames_iff {weighs : Bool} {fleet : List Daemon} :
    AllOwn number (fleetNames weighs fleet) <-> OwnNames fleet := by
  constructor
  · intro h d hd name hname hinherited
    rcases List.mem_map.mp ((mem_keys_fleetNames hinherited).mpr
      ⟨d, hd, hname⟩) with ⟨met, hmet, hkey⟩
    exact h met hmet (hkey ▸ hinherited)
  · intro h met hmet hinherited
    rcases (mem_keys_fleetNames hinherited).mp (List.mem_map_of_mem hmet) with
      ⟨d, hd, hname⟩
    exact h d hd _ hname hinherited

theorem meetsPrototype_fleetNames (weighs : Bool) (fleet : List Daemon) :
    meetsPrototype number (fleetNames weighs fleet) = namesPrototype fleet := by
  unfold meetsPrototype namesPrototype
  rw [Bool.eq_iff_iff, decide_eq_true_iff, mem_keys_fleetNames (by decide),
    List.any_eq_true]
  simp only [decide_eq_true_eq]

theorem answerNames_of_listResponse
    (number : Int -> Int -> List Char) (hpacks : PacksNoNull lib)
    {res : Option Json} (hres : ListResponse lib env apiname res m)
    (hpacked : allPacked lib (fleetAt lib env apiname m.before.log) = true)
    (weighs : Bool) :
    answerNames number weighs res =
      fleetNames weighs (fleetAt lib env apiname m.before.log) := by
  unfold answerNames fleetNames
  rw [show property "response" res = _ from hres]
  simp only [shownNames_met]
  have hown := shownNames_eq_linkNames number hpacks hpacked
  show shownNames number ((List.map _ _).map Met.own) ++ _ = _
  rw [hown]
  cases weighs with
  | true => rfl
  | false => rfl

theorem fleetsDrawn_of_drawn (hpacks : PacksNoNull lib) {weighs : Bool}
    {answers : List (Option Json)} {drawings : List Drawing}
    (h : Drawn number weighs answers drawings) {lists : List RequestMove}
    (hlists : List.Forall₂ (ListResponse lib env apiname) answers lists) :
    FleetsDrawn number lib env apiname weighs lists drawings := by
  induction h generalizing lists with
  | nil =>
      cases hlists
      exact FleetsDrawn.nil
  | drawn hanswer hown hdepicts hrest ih =>
      cases hlists with
      | cons hres hlists =>
          have hpacked := (answerDrawable_iff hres).mp hanswer
          rw [answerNames_of_listResponse number hpacks hres hpacked]
            at hown hdepicts
          refine FleetsDrawn.drawn hpacked (allOwn_fleetNames_iff.mp hown)
            ⟨hdepicts, ?_⟩ (ih hlists)
          intro api hapi d hd
          exact exists_name_of_mem_fleetAt hpacks hapi hd
            (List.all_eq_true.mp hpacked d hd)
  | inherited hanswer hown hrest ih =>
      cases hlists with
      | cons hres hlists =>
          have hpacked := (answerDrawable_iff hres).mp hanswer
          have hnames := answerNames_of_listResponse number hpacks hres
            hpacked
          simp only [hnames, meetsPrototype_fleetNames] at hown ih
          exact FleetsDrawn.inherited hpacked
            (fun hyes => hown (allOwn_fleetNames_iff.mpr hyes)) (ih hlists)
  | refused hanswer hrest ih =>
      cases hlists with
      | cons hres hlists =>
          exact FleetsDrawn.unpacked
            (fun hyes => hanswer ((answerDrawable_iff hres).mpr hyes))
            (ih hlists)

/--
Over every run of the service, the page that is given the answers of the list
requests draws one picture for each request whose fleet could be packed and has
no inherited name in it, in the order of the requests, and the picture shows the
fleet found at that time.
-/
theorem fleets_drawn (hpacks : PacksNoNull lib) {moves : List RequestMove}
    (hrun : Run (Serves lib env apiname) w moves w')
    {answers : List (Option Json)}
    (hanswers : List.Forall₂ Carries answers (moves.filter answersList))
    (diagram : Diagram) :
    exists drawings,
      (drawnAfter number diagram answers).drawings =
        diagram.drawings ++ drawings ∧
      FleetsDrawn number lib env apiname diagram.weighs
        (moves.filter answersList) drawings := by
  rcases exists_drawn answers diagram with ⟨drawings, hdrawings, hdrawn⟩
  have hresponses := forall₂_listResponse
    (fun m hm => serves_of_answersList hrun hm) hanswers
  exact ⟨drawings, hdrawings, fleetsDrawn_of_drawn hpacks hdrawn hresponses⟩

theorem exists_answers {moves : List RequestMove}
    (hrun : Run (Serves lib env apiname) w moves w') :
    exists answers, List.Forall₂ Carries answers (moves.filter answersList) := by
  have hserved : forall m, m ∈ moves.filter answersList ->
      exists res, Carries res m := by
    intro m hm
    rcases serves_of_answersList hrun hm with ⟨before, after, rfl, hserves⟩
    exact exists_carries hserves
  generalize moves.filter answersList = lists at hserved
  induction lists with
  | nil => exact ⟨[], List.Forall₂.nil⟩
  | cons m lists ih =>
      rcases hserved m List.mem_cons_self with ⟨res, hres⟩
      rcases ih fun other hmem => hserved other (List.mem_cons_of_mem m hmem)
        with ⟨answers, hanswers⟩
      exact ⟨res :: answers, List.Forall₂.cons hres hanswers⟩

theorem fleetLibs_packsNoNull : PacksNoNull fleetLibs := by
  intro item hpacks hnone
  have hsome : item.name.isSome = true := hpacks
  rw [hnone] at hsome
  cases hsome

/-- A session is started between two list requests, and both are drawn. -/
theorem fleets_drawn_pair :
    exists moves w answers drawings,
      Run (Serves fleetLibs (fleetEnv pairFleet) (some "xds")) World.initial
        moves w ∧
      List.Forall₂ Carries answers (moves.filter answersList) ∧
      (drawnAfter (fun mantissa _ => (toString mantissa).toList)
        Diagram.empty answers).drawings = drawings ∧
      FleetsDrawn (fun mantissa _ => (toString mantissa).toList) fleetLibs
        (fleetEnv pairFleet) (some "xds") false (moves.filter answersList)
        drawings ∧
      drawings.length = 2 := by
  have hserve : (serveAll fleetLibs (fleetEnv pairFleet) (some "xds")
      World.initial [Request.list, Request.traceStart (wsQuery "unix"),
        Request.list]).any (fun run =>
          (run.1.filter answersList).length = 2 ∧
          forall m, m ∈ run.1.filter answersList ->
            allPacked fleetLibs (fleetAt fleetLibs (fleetEnv pairFleet)
              (some "xds") m.before.log) = true ∧
            OwnNames (fleetAt fleetLibs (fleetEnv pairFleet) (some "xds")
              m.before.log)) = true := by
    decide +kernel
  rcases (Option.any_eq_true _ _).mp hserve with ⟨run, hrun, hboth⟩
  rcases of_decide_eq_true hboth with ⟨hlength, hall⟩
  have hruns := run_of_serveAll hrun
  rcases exists_answers hruns with ⟨answers, hanswers⟩
  rcases @fleets_drawn (fun mantissa _ => (toString mantissa).toList) _ _ _ _ _
    fleetLibs_packsNoNull _ hruns _ hanswers Diagram.empty with
    ⟨drawings, hdrawings, hdrawn⟩
  exact ⟨run.1, run.2, answers, drawings, hruns, hanswers, hdrawings, hdrawn,
    (hdrawn.length_eq hall).trans hlength⟩

end Graph
end XdsService

import Mathlib.Data.List.TakeWhile
import XdsService.Foundation.Buckets
import XdsService.Foundation.Runs
import XdsService.Websock.Steps

/-!
# Handlers of events

`onevent` files a handler under a pattern, and `fire` looks under the name of
the event, under what stands before its first slash, and under `*`.  The three
look-ups read one plain object: two of them can meet in one list, and each can
meet an inherited property.
-/

namespace XdsService
namespace Websock

open Foundation
open Program

/-!
## Registrations
-/

/-- A call of `onevent`; calls are numbered in their order. -/
structure Registration where
  number : Nat
  pattern : String
  handler : Nat
deriving DecidableEq, Repr

def Action.registers? : Action -> Option (String × Nat)
  | onevent name handler => some (name, handler)
  | _ => none

def registrations (moves : List (Move Page Action (Option Nat))) :
    List Registration :=
  (moves.filterMap fun move => move.action.registers?).zipIdx.map
    fun entry => ⟨entry.2, entry.1.1, entry.1.2⟩

section Registrations

variable {moves : List (Move Page Action (Option Nat))}
variable {move : Move Page Action (Option Nat)}

theorem length_registrations
    (moves : List (Move Page Action (Option Nat))) :
    (registrations moves).length =
      (moves.filterMap fun move => move.action.registers?).length := by
  simp [registrations]

theorem registrations_snoc_of_none (h : move.action.registers? = none) :
    registrations (moves ++ [move]) = registrations moves := by
  simp [registrations, h]

theorem registrations_snoc_of_some {name : String} {handler : Nat}
    (h : move.action.registers? = some (name, handler)) :
    registrations (moves ++ [move]) =
      registrations moves ++
        [⟨(registrations moves).length, name, handler⟩] := by
  rw [length_registrations]
  simp [registrations, h, List.zipIdx_append]

theorem map_number_registrations
    (moves : List (Move Page Action (Option Nat))) :
    (registrations moves).map Registration.number =
      List.range (registrations moves).length := by
  rw [length_registrations]
  unfold registrations
  rw [List.map_map]
  exact (List.range_eq_range').symm ▸ List.zipIdx_map_snd 0 _

theorem nodup_registrations
    (moves : List (Move Page Action (Option Nat))) :
    (registrations moves).Nodup := by
  apply List.Nodup.of_map Registration.number
  rw [map_number_registrations]
  exact List.nodup_range

end Registrations

/-!
## What is promised
-/

/-- The name itself, the part before its first slash, or the wildcard. -/
def Selects (pattern name : String) : Prop :=
  pattern = name ∨ ('/' ∈ name.toList ∧ pattern = beforeSlash name) ∨
    pattern = "*"

instance (pattern name : String) : Decidable (Selects pattern name) := by
  unfold Selects
  infer_instance

structure CallsOnce (registered : List Registration) (name : String)
    (calls : List Registration) : Prop where
  nodup : calls.Nodup
  mem : forall r, r ∈ calls <-> r ∈ registered ∧ Selects r.pattern name
  ordered : forall pattern,
    (bucket Registration.pattern calls pattern).Sublist registered

/-- The event is handed once to every handler registered for it, and no more. -/
def DeliversOnce (registered : List Registration) (page : Page)
    (m : Message) : Prop :=
  exists page' calls, Handles page (Action.message m) none page' ∧
    page'.fired = page.fired ++ calls.map (fun r => (r.handler, m.ans)) ∧
    CallsOnce registered m.id calls

/-- The names under which `fire` looks before it looks under `*`. -/
def ownNames (name : String) : List String :=
  name :: if '/' ∈ name.toList then [beforeSlash name] else []

/--
No wildcard is registered where the event is named so itself or an inherited
name is met, and nothing is registered for the event under an inherited name.
-/
structure Undisturbed (registered : List Registration) (name : String) :
    Prop where
  wildcard : forall own, own ∈ ownNames name ->
    own = "*" ∨ own ∈ objectPrototype ->
      forall r, r ∈ registered -> r.pattern ≠ "*"
  inherited : forall r, r ∈ registered -> r.pattern ∈ objectPrototype ->
    ¬ Selects r.pattern name

/-!
## The names looked up
-/

section Names

variable {name pattern : String}

theorem slash_notMem_of_objectPrototype (h : pattern ∈ objectPrototype) :
    '/' ∉ pattern.toList := by
  have hnames : objectPrototype.all
      (fun name => decide ('/' ∉ name.toList)) = true := by
    decide
  exact of_decide_eq_true (List.all_eq_true.mp hnames _ h)

theorem star_notMem_objectPrototype : "*" ∉ objectPrototype := by
  decide

theorem beforeSlash_ne (h : '/' ∈ name.toList) : beforeSlash name ≠ name := by
  intro heq
  rw [← heq, beforeSlash, String.toList_ofList] at h
  have hne := List.mem_takeWhile_imp h
  exact of_decide_eq_true hne rfl

theorem ownNames_cases (name : String) :
    ownNames name = [name] ∨
      (ownNames name = [name, beforeSlash name] ∧ name ∉ objectPrototype ∧
        name ≠ "*" ∧ beforeSlash name ≠ name) := by
  unfold ownNames
  by_cases hslash : '/' ∈ name.toList
  · right
    rw [if_pos hslash]
    refine ⟨rfl, ?_, ?_, beforeSlash_ne hslash⟩
    · exact fun hmem => slash_notMem_of_objectPrototype hmem hslash
    · rintro rfl
      revert hslash
      decide
  · left
    rw [if_neg hslash]

theorem nodup_ownNames (name : String) : (ownNames name).Nodup := by
  rcases ownNames_cases name with hown | ⟨hown, _, _, hne⟩
  · rw [hown]
    exact List.nodup_singleton name
  · rw [hown]
    simpa using hne.symm

theorem selects_iff :
    Selects pattern name <-> pattern ∈ ownNames name ∨ pattern = "*" := by
  unfold Selects ownNames
  by_cases hslash : '/' ∈ name.toList
  · simp [hslash, or_assoc]
  · simp [hslash]

theorem selects_iff_of_star (hstar : "*" ∈ ownNames name) :
    Selects pattern name <-> pattern ∈ ownNames name := by
  rw [selects_iff]
  constructor
  · rintro (hown | heq)
    · exact hown
    · rw [heq]
      exact hstar
  · exact Or.inl

/-- The names looked up until an inherited property is met. -/
def served (name : String) : List String :=
  (ownNames name ++ ["*"]).takeWhile fun own => decide (own ∉ objectPrototype)

theorem mem_served_iff :
    pattern ∈ served name <-> pattern ∉ objectPrototype ∧
      (pattern ∈ ownNames name ∨
        (pattern = "*" ∧ forall own, own ∈ ownNames name ->
          own ∉ objectPrototype)) := by
  have hstar := star_notMem_objectPrototype
  rcases ownNames_cases name with hown | ⟨hown, hname, _, _⟩
  · by_cases hname : name ∈ objectPrototype
    · have hserved : served name = [] := by
        simp [served, hown, hname]
      rw [hserved, hown]
      grind
    · have hserved : served name = [name, "*"] := by
        simp [served, hown, hname, hstar]
      rw [hserved, hown]
      grind
  · by_cases hbefore : beforeSlash name ∈ objectPrototype
    · have hserved : served name = [name] := by
        simp [served, hown, hname, hbefore]
      rw [hserved, hown]
      grind
    · have hserved : served name = [name, beforeSlash name, "*"] := by
        simp [served, hown, hname, hbefore, hstar]
      rw [hserved, hown]
      grind

theorem notMem_objectPrototype_of_star (hstar : "*" ∈ ownNames name) :
    forall own, own ∈ ownNames name -> own ∉ objectPrototype := by
  rcases ownNames_cases name with hown | ⟨hown, hname, hne, _⟩
  · rw [hown] at hstar ⊢
    intro own hmem
    rw [List.mem_singleton.mp hmem, ← List.mem_singleton.mp hstar]
    exact star_notMem_objectPrototype
  · rw [hown] at hstar ⊢
    intro own hmem
    rcases List.mem_pair.mp hmem with rfl | rfl
    · exact hname
    · rcases List.mem_pair.mp hstar with heq | heq
      · exact absurd heq.symm hne
      · rw [← heq]
        exact star_notMem_objectPrototype

theorem served_of_star (hstar : "*" ∈ ownNames name) :
    served name = ownNames name ++ ["*"] := by
  unfold served
  rw [List.takeWhile_eq_self_iff]
  intro own hmem
  rcases List.mem_append.mp hmem with hmem | hmem
  · exact decide_eq_true (notMem_objectPrototype_of_star hstar own hmem)
  · rw [List.mem_singleton.mp hmem]
    exact decide_eq_true star_notMem_objectPrototype

theorem nodup_served (hstar : "*" ∉ ownNames name) : (served name).Nodup := by
  apply (List.takeWhile_sublist _).nodup
  rw [← List.concat_eq_append]
  exact (nodup_ownNames name).concat hstar

end Names

/-!
## The table of handlers
-/

variable {registered : List Registration} {page page' : Page}
variable {answer : Option Nat} {data : Option Json} {m : Message}
variable {moves : List (Move Page Action (Option Nat))}

/-- The table holds what was registered; nothing goes under inherited names. -/
structure HoldsHandlers (registered : List Registration) (page : Page) :
    Prop where
  own : forall pattern, pattern ∉ objectPrototype ->
    (page.awaitens.lookup pattern).getD [] =
      (bucket Registration.pattern registered pattern).map
        Registration.handler
  inherited : forall pattern, pattern ∈ objectPrototype ->
    page.awaitens.lookup pattern = none

theorem holdsHandlers_fresh (token : Option Json) (onabort : Option Nat) :
    HoldsHandlers [] (Page.fresh token onabort) :=
  ⟨fun _ _ => rfl, fun _ _ => rfl⟩

theorem HoldsHandlers.of_awaitens (h : HoldsHandlers registered page)
    (hsame : page'.awaitens = page.awaitens) :
    HoldsHandlers registered page' := by
  constructor
  · rw [hsame]
    exact h.own
  · rw [hsame]
    exact h.inherited

def Page.withHandlers (page : Page) (pattern : String) (handlers : List Nat) :
    Page :=
  { page with awaitens := page.awaitens.insert pattern handlers }

theorem run_onevent_of_own {name : String} (hname : name ∉ objectPrototype)
    (handler : Nat) (page : Page) :
    (onevent name handler).run page =
      .ok () (page.withHandlers name
        ((page.awaitens.lookup name).getD [] ++ [handler])) := by
  unfold onevent
  rw [EStateM.run_bind, EStateM.run_get]
  cases hlookup : page.awaitens.lookup name with
  | some list =>
      simp only [hlookup]
      rfl
  | none =>
      simp only [hlookup, hname, if_false]
      rfl

theorem handles_onevent_of_own {name : String} (hname : name ∉ objectPrototype)
    (handler : Nat) (page : Page) :
    Handles page (Action.onevent name handler) none
      (page.withHandlers name
        ((page.awaitens.lookup name).getD [] ++ [handler])) :=
  Handles.returned (run_bind_of_ok (run_onevent_of_own hname handler page))

theorem run_onevent_of_inherited {name : String}
    (hname : name ∈ objectPrototype) (handler : Nat)
    (hlookup : page.awaitens.lookup name = none) :
    (onevent name handler).run page = .error JsError.typeError page := by
  unfold onevent
  rw [EStateM.run_bind, EStateM.run_get]
  simp only [hlookup, hname, if_true]
  rfl

theorem holdsHandlers_onevent {name : String} {handler : Nat}
    (h : HoldsHandlers registered page) (number : Nat)
    (hhandles : Handles page (Action.onevent name handler) answer page') :
    HoldsHandlers (registered ++ [⟨number, name, handler⟩]) page' := by
  have hpage := final_of_handles hhandles
  rw [show perform (Action.onevent name handler) =
    onevent name handler >>= fun _ => pure none from rfl,
    finalState_bind_pure] at hpage
  by_cases hname : name ∈ objectPrototype
  · rw [run_onevent_of_inherited hname handler (h.inherited name hname)]
      at hpage
    rw [hpage]
    refine ⟨?_, h.inherited⟩
    intro pattern hpattern
    have hne : name ≠ pattern := by
      rintro rfl
      exact hpattern hname
    rw [bucket_append]
    simpa [bucket, hne] using h.own pattern hpattern
  · rw [run_onevent_of_own hname] at hpage
    rw [hpage]
    constructor
    · intro pattern hpattern
      rw [bucket_append, List.map_append, ← h.own pattern hpattern]
      by_cases heq : pattern = name
      · subst heq
        simp [Page.withHandlers, bucket]
      · have hne : name ≠ pattern := fun h => heq h.symm
        simp [Page.withHandlers, AList.lookup_insert_ne heq, bucket, hne]
    · intro pattern hpattern
      have hne : pattern ≠ name := by
        rintro rfl
        exact hname hpattern
      exact (AList.lookup_insert_ne hne).trans (h.inherited pattern hpattern)

/-!
## Messages leave the table alone
-/

def SameHandlers (page page' : Page) : Prop := page'.awaitens = page.awaitens

instance : Std.Refl SameHandlers := ⟨fun _ => rfl⟩

instance : IsTrans Page SameHandlers where
  trans := fun _ _ _ hab hbc => hbc.trans hab

def AnyError (_ : JsError) : Prop := True

theorem sameHandlers_setToken (tok : Option Json) :
    Moves SameHandlers AnyError (setToken tok) where
  along := by
    intro page
    rcases run_setToken tok page with ⟨token, hrun⟩
    rw [hrun]
    rfl
  exits := fun _ => trivial

theorem sameHandlers_reply (id : String) (ans : Option Json) (offset : Nat) :
    Moves SameHandlers AnyError (reply id ans offset) := by
  refine moves_get_bind ?_ fun _ _ _ _ => trivial
  intro page
  by_cases hin : page.pendings.inObject id = true
  · simp only [hin, if_true]
    cases page.pendings.lookup id with
    | none => rfl
    | some entry =>
        cases hf : elementNamed entry (indexName offset) with
        | none =>
            simp only [hf]
            rfl
        | some f =>
            simp only [hf]
            rfl
  · simp only [hin]
    rfl

theorem FiresOnly.sameHandlers (h : FiresOnly page page') :
    SameHandlers page page' := by
  rw [h]
  rfl

theorem sameHandlers_onmessage (m : Message) :
    Moves SameHandlers AnyError (onmessage m) := by
  have hfire : Moves SameHandlers AnyError (fire m.id m.ans) :=
    (firesOnly_fire m.id m.ans).weaken FiresOnly.sameHandlers
      fun _ => trivial
  refine moves_bind (sameHandlers_setToken m.token) ?_
  intro _
  exact moves_ite (sameHandlers_reply _ _ _)
    (moves_ite (sameHandlers_reply _ _ _) hfire)

theorem final_of_message (h : Handles page (Action.message m) answer page') :
    page' = finalState ((onmessage m).run page) := by
  rw [final_of_handles h, show perform (Action.message m) =
    onmessage m >>= fun _ => pure none from rfl, finalState_bind_pure]

theorem holdsHandlers_of_run {token : Option Json} {onabort : Option Nat}
    (hrun : Run Handles (Page.fresh token onabort) moves page) :
    HoldsHandlers (registrations moves) page := by
  induction hrun with
  | nil => exact holdsHandlers_fresh token onabort
  | @snoc moves page page' action answer _ hhandles ih =>
      cases action with
      | call sending method request =>
          rw [registrations_snoc_of_none rfl]
          rcases handles_call hhandles with ⟨counter, _, _, rfl⟩
          exact ih.of_awaitens rfl
      | message m =>
          rw [registrations_snoc_of_none rfl]
          apply ih.of_awaitens
          rw [final_of_message hhandles]
          exact (sameHandlers_onmessage m).along page
      | onevent name handler =>
          rw [registrations_snoc_of_some rfl]
          exact holdsHandlers_onevent ih _ hhandles

theorem exists_run_registering (token : Option Json) (onabort : Option Nat)
    (calls : List (String × Nat)) :
    exists moves page, Run Handles (Page.fresh token onabort) moves page ∧
      moves.map Move.action =
        calls.map fun call => Action.onevent call.1 call.2 := by
  induction calls using List.reverseRecOn with
  | nil => exact ⟨[], _, Run.nil, rfl⟩
  | append_singleton calls call ih =>
      rcases call with ⟨name, handler⟩
      rcases ih with ⟨moves, page, hrun, hactions⟩
      have hends : exists page',
          Handles page (Action.onevent name handler) none page' := by
        by_cases hname : name ∈ objectPrototype
        · have hlookup := (holdsHandlers_of_run hrun).inherited name hname
          exact ⟨_, Handles.thrown (run_bind_of_error
            (run_onevent_of_inherited hname handler hlookup))⟩
        · exact ⟨_, handles_onevent_of_own hname handler page⟩
      rcases hends with ⟨page', hhandles⟩
      refine ⟨_, page', Run.snoc hrun hhandles, ?_⟩
      rw [List.map_append, List.map_append, hactions]
      rfl

/-!
## What fire calls
-/

def Page.firing (page : Page) (calls : List Registration)
    (data : Option Json) : Page :=
  { page with
    fired := page.fired ++ calls.map fun r => (r.handler, data) }

theorem firing_nil (page : Page) (data : Option Json) :
    page.firing [] data = page := by
  simp [Page.firing]

theorem firing_firing (page : Page) (first second : List Registration)
    (data : Option Json) :
    (page.firing first data).firing second data =
      page.firing (first ++ second) data := by
  simp [Page.firing]

theorem run_fireHandlers_of_own (h : HoldsHandlers registered page)
    {name : String} (hname : name ∉ objectPrototype) (data : Option Json) :
    (fireHandlers name data).run page =
      .ok () (page.firing (bucket Registration.pattern registered name)
        data) := by
  have hown := h.own name hname
  unfold fireHandlers
  rw [EStateM.run_bind, EStateM.run_get]
  cases hlookup : page.awaitens.lookup name with
  | some handlers =>
      rw [hlookup, Option.getD_some] at hown
      simp only [hlookup, hown, List.map_map]
      rfl
  | none =>
      rw [hlookup, Option.getD_none] at hown
      rw [List.map_eq_nil_iff.mp hown.symm, firing_nil]
      simp only [hlookup, hname, if_false]
      rfl

theorem run_fireHandlers_of_inherited (h : HoldsHandlers registered page)
    {name : String} (hname : name ∈ objectPrototype) (data : Option Json) :
    (fireHandlers name data).run page = .error JsError.typeError page := by
  unfold fireHandlers
  rw [EStateM.run_bind, EStateM.run_get]
  simp only [h.inherited name hname, hname, if_true]
  rfl

/-- Looking up name after name, until one of them is inherited. -/
theorem finalState_forM_fireHandlers (h : HoldsHandlers registered page)
    (names : List String) (data : Option Json) :
    finalState ((names.forM fun name => fireHandlers name data).run page) =
      page.firing (buckets Registration.pattern registered
        (names.takeWhile fun name => decide (name ∉ objectPrototype))) data := by
  induction names generalizing page with
  | nil => exact (firing_nil page data).symm
  | cons name rest ih =>
      change finalState ((fireHandlers name data >>= fun _ =>
        rest.forM fun name => fireHandlers name data).run page) = _
      by_cases hname : name ∈ objectPrototype
      · rw [run_bind_of_error (run_fireHandlers_of_inherited h hname data),
          List.takeWhile_cons_of_neg (by simpa using hname)]
        exact (firing_nil page data).symm
      · rw [run_bind_of_ok (run_fireHandlers_of_own h hname data),
          List.takeWhile_cons_of_pos (by simpa using hname), buckets_cons,
          ← firing_firing]
        exact ih (h.of_awaitens rfl)

theorem fire_eq_forM (name : String) (data : Option Json) :
    fire name data =
      (ownNames name ++ ["*"]).forM fun name => fireHandlers name data := by
  unfold fire fireBeforeSlash ownNames
  by_cases hslash : '/' ∈ name.toList
  · rw [if_pos hslash, if_pos hslash]
    simp
  · rw [if_neg hslash, if_neg hslash]
    simp

theorem finalState_fire (h : HoldsHandlers registered page) (name : String)
    (data : Option Json) :
    finalState ((fire name data).run page) =
      page.firing (buckets Registration.pattern registered (served name))
        data := by
  rw [fire_eq_forM]
  exact finalState_forM_fireHandlers h _ data

/-- An event calls the handlers under the names that are looked up. -/
theorem fired_of_handles (h : HoldsHandlers registered page)
    (hevent : ¬ m.IsReply)
    (hhandles : Handles page (Action.message m) answer page') :
    page'.fired = page.fired ++
      (buckets Registration.pattern registered (served m.id)).map
        fun r => (r.handler, m.ans) := by
  rcases run_setToken m.token page with ⟨token, htoken⟩
  have htable : HoldsHandlers registered { page with token := token } :=
    h.of_awaitens rfl
  rw [final_of_message hhandles, onmessage_of_event hevent,
    run_bind_of_ok htoken, finalState_fire htable]
  rfl

/-!
## When every handler is called once
-/

section CallsOnce

variable {name : String} {calls : List Registration} {keys : List String}

def selected (registered : List Registration) (name : String) :
    List Registration :=
  registered.filter fun r => decide (Selects r.pattern name)

theorem mem_selected_iff {r : Registration} :
    r ∈ selected registered name <-> r ∈ registered ∧ Selects r.pattern name := by
  simp [selected]

theorem CallsOnce.length_eq (h : CallsOnce registered name calls)
    (hnodup : registered.Nodup) :
    calls.length = (selected registered name).length := by
  have hselected : (selected registered name).Nodup := hnodup.filter _
  apply List.Perm.length_eq
  rw [List.perm_ext_iff_of_nodup h.nodup hselected]
  intro r
  rw [h.mem r]
  exact mem_selected_iff.symm

/-- Distinct keys that are the patterns selected are looked up once each. -/
theorem callsOnce_buckets (hnodup : registered.Nodup) (hkeys : keys.Nodup)
    (hselects : forall r, r ∈ registered ->
      (r.pattern ∈ keys <-> Selects r.pattern name)) :
    CallsOnce registered name
      (buckets Registration.pattern registered keys) := by
  constructor
  · exact nodup_buckets hnodup hkeys
  · intro r
    rw [mem_buckets_iff]
    exact and_congr_right (hselects r)
  · intro pattern
    rw [bucket_buckets hkeys]
    split
    · exact bucket_sublist registered pattern
    · exact List.nil_sublist registered

theorem callsOnce_served (hnodup : registered.Nodup)
    (h : Undisturbed registered name) :
    CallsOnce registered name
      (buckets Registration.pattern registered (served name)) := by
  by_cases hstar : "*" ∈ ownNames name
  · have hnone : bucket Registration.pattern registered "*" = [] :=
      bucket_eq_nil_iff.mpr (h.wildcard "*" hstar (Or.inl rfl))
    rw [served_of_star hstar, buckets_append, buckets_singleton, hnone,
      List.append_nil]
    apply callsOnce_buckets hnodup (nodup_ownNames name)
    intro r _
    exact (selects_iff_of_star hstar).symm
  · apply callsOnce_buckets hnodup (nodup_served hstar)
    intro r hr
    rw [mem_served_iff, selects_iff]
    constructor
    · rintro ⟨_, hown | ⟨heq, _⟩⟩
      · exact Or.inl hown
      · exact Or.inr heq
    · intro hselects
      have hpattern : r.pattern ∉ objectPrototype := by
        intro hmem
        exact h.inherited r hr hmem (selects_iff.mpr hselects)
      rcases hselects with hown | heq
      · exact ⟨hpattern, Or.inl hown⟩
      · refine ⟨hpattern, Or.inr ⟨heq, ?_⟩⟩
        intro own hown hmem
        exact h.wildcard own hown (Or.inr hmem) r hr heq

/-- As many calls as selected registrations: none of them was missed. -/
theorem mem_served_of_length (hnodup : registered.Nodup)
    (hstar : "*" ∉ ownNames name)
    (hlength : (buckets Registration.pattern registered
      (served name)).length = (selected registered name).length)
    {r : Registration} (hr : r ∈ registered)
    (hselects : Selects r.pattern name) : r.pattern ∈ served name := by
  rw [length_buckets hnodup (nodup_served hstar)] at hlength
  have hsub : (registered.filter fun r =>
      decide (r.pattern ∈ served name)).Sublist (selected registered name) := by
    apply List.monotone_filter_right
    intro r hserved
    have hmem := mem_served_iff.mp (of_decide_eq_true hserved)
    exact decide_eq_true (selects_iff.mpr
      (hmem.right.imp_right fun hstar => hstar.left))
  have hall := mem_selected_iff.mpr ⟨hr, hselects⟩
  rw [← hsub.eq_of_length hlength] at hall
  exact of_decide_eq_true (List.mem_filter.mp hall).right

/-- No name is looked up twice, so that no call was missed for another. -/
theorem undisturbed_of_notMem (hnodup : registered.Nodup)
    (hstar : "*" ∉ ownNames name)
    (hlength : (buckets Registration.pattern registered
      (served name)).length = (selected registered name).length) :
    Undisturbed registered name := by
  constructor
  · intro own hown hdisturbs r hr heq
    have hserved := mem_served_of_length hnodup hstar hlength hr
      (selects_iff.mpr (Or.inr heq))
    rcases hdisturbs with rfl | hinherited
    · exact hstar hown
    · rcases (mem_served_iff.mp hserved).right with hmem | ⟨_, hall⟩
      · rw [heq] at hmem
        exact hstar hmem
      · exact hall own hown hinherited
  · intro r hr hpattern hselects
    have hserved := mem_served_of_length hnodup hstar hlength hr hselects
    exact (mem_served_iff.mp hserved).left hpattern

/-- What is under the wildcard is called twice, so that there is nothing. -/
theorem undisturbed_of_mem (hnodup : registered.Nodup)
    (hstar : "*" ∈ ownNames name)
    (hlength : (buckets Registration.pattern registered
      (served name)).length = (selected registered name).length) :
    Undisturbed registered name := by
  have hselected : selected registered name =
      registered.filter fun r => decide (r.pattern ∈ ownNames name) := by
    apply List.filter_congr
    intro r _
    rw [decide_eq_decide]
    exact selects_iff_of_star hstar
  rw [served_of_star hstar, buckets_append, buckets_singleton,
    List.length_append, length_buckets hnodup (nodup_ownNames name),
    hselected] at hlength
  have hnone : bucket Registration.pattern registered "*" = [] :=
    List.length_eq_zero_iff.mp (Nat.add_eq_left.mp hlength)
  constructor
  · intro own _ _
    exact bucket_eq_nil_iff.mp hnone
  · intro r _ hpattern hselects
    have hown := (selects_iff_of_star hstar).mp hselects
    exact notMem_objectPrototype_of_star hstar _ hown hpattern

theorem undisturbed_of_length (hnodup : registered.Nodup)
    (hlength : (buckets Registration.pattern registered
      (served name)).length = (selected registered name).length) :
    Undisturbed registered name := by
  by_cases hstar : "*" ∈ ownNames name
  · exact undisturbed_of_mem hnodup hstar hlength
  · exact undisturbed_of_notMem hnodup hstar hlength

end CallsOnce

theorem deliversOnce_iff (h : HoldsHandlers registered page)
    (hnodup : registered.Nodup) (hevent : ¬ m.IsReply) :
    DeliversOnce registered page m <-> Undisturbed registered m.id := by
  constructor
  · intro hdelivers
    rcases hdelivers with ⟨page', calls, hhandles, hfired, honce⟩
    rw [fired_of_handles h hevent hhandles] at hfired
    have hlength := congrArg List.length (List.append_cancel_left hfired)
    rw [List.length_map, List.length_map, honce.length_eq hnodup] at hlength
    exact undisturbed_of_length hnodup hlength
  · intro hundisturbed
    rcases exists_handles_of_other fun hreply => absurd hreply hevent with
      ⟨page', hhandles, _⟩
    exact ⟨page', _, hhandles, fired_of_handles h hevent hhandles,
      callsOnce_served hnodup hundisturbed⟩

/--
After any run an event is delivered once to every handler registered for it
exactly if the look-ups of `fire` neither meet in one list nor meet an
inherited property where a handler waits.
-/
theorem events_delivered_iff {token : Option Json} {onabort : Option Nat}
    (hrun : Run Handles (Page.fresh token onabort) moves page)
    (hevent : ¬ m.IsReply) :
    DeliversOnce (registrations moves) page m <->
      Undisturbed (registrations moves) m.id :=
  deliversOnce_iff (holdsHandlers_of_run hrun) (nodup_registrations moves)
    hevent

def eventCode : Int := 5

theorem not_isReply_event (name : String) (data : Option Json) :
    ¬ Message.IsReply ⟨eventCode, name, data, none⟩ := by
  rintro (hcode | hcode)
  · cases hcode
  · cases hcode

/-- A handler for everything and one for the events of an api. -/
theorem events_delivered_iff_api :
    exists moves page,
      Run Handles (Page.fresh none none) moves page ∧
        moves.map Move.action =
          [Action.onevent "*" 1, Action.onevent "monitor" 2] ∧
        (DeliversOnce (registrations moves) page
            ⟨eventCode, "monitor/trace", none, none⟩ <->
          Undisturbed (registrations moves) "monitor/trace") := by
  rcases exists_run_registering none none [("*", 1), ("monitor", 2)] with
    ⟨moves, page, hrun, hactions⟩
  exact ⟨moves, page, hrun, hactions,
    events_delivered_iff hrun (not_isReply_event _ _)⟩

/-- An event that is named by the wildcard is handed to its handler twice. -/
theorem star_delivered_twice :
    exists moves page,
      Run Handles (Page.fresh none none) moves page ∧
        moves.map Move.action = [Action.onevent "*" 1] ∧
        (exists page',
          Handles page (Action.message ⟨eventCode, "*", none, none⟩) none page' ∧
            page'.fired = [(1, none), (1, none)]) ∧
        ¬ DeliversOnce (registrations moves) page ⟨eventCode, "*", none, none⟩ := by
  have hevent := not_isReply_event "*" none
  have hstar := handles_onevent_of_own star_notMem_objectPrototype 1
    (Page.fresh none none)
  have hrun := Run.snoc Run.nil hstar
  refine ⟨_, _, hrun, rfl, ?_, ?_⟩
  · rcases exists_handles_of_other fun hreply => absurd hreply hevent with
      ⟨page', hhandles, _⟩
    exact ⟨page', hhandles,
      fired_of_handles (holdsHandlers_of_run hrun) hevent hhandles⟩
  · intro hdelivers
    have h := (deliversOnce_iff (holdsHandlers_of_run hrun)
      (nodup_registrations _) hevent).mp hdelivers
    exact h.wildcard "*" List.mem_cons_self (Or.inl rfl)
      ⟨0, "*", 1⟩ List.mem_cons_self rfl

end Websock
end XdsService

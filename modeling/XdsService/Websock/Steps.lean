import XdsService.Websock.Page

/-!
# What one action does to the page

A call takes an id that is not in pendings, a reply settles the promise of its
entry, and everything else leaves the calls alone.
-/

namespace XdsService
namespace Websock

open Foundation
open Program

variable {page page' : Page} {sending : Sending} {method : String}
variable {request : Json} {m : Message} {answer : Option Nat}
variable {pendings : Properties (List Callback)} {counter promise : Nat}

/-!
## The id of a call
-/

theorem nextCounter_eq (counter : Nat) :
    nextCounter counter = (counter + 1) % 4096 := by
  unfold nextCounter
  rw [Nat.and_comm]
  exact Nat.and_two_pow_sub_one_eq_mod (counter + 1) 12

theorem chooseId_eq_some {rounds counter chosen : Nat}
    (h : chooseId pendings rounds counter = some chosen) :
    chosen < 4096 ∧ indexName chosen ∉ pendings := by
  induction rounds generalizing counter with
  | zero => cases h
  | succ rounds ih =>
      unfold chooseId at h
      by_cases hin :
          pendings.inObject (indexName (nextCounter counter)) = true
      · rw [if_pos hin] at h
        exact ih h
      · rw [if_neg hin] at h
        cases h
        refine ⟨?_, fun hmem => hin (inObject_indexName.mpr hmem)⟩
        rw [nextCounter_eq]
        exact Nat.mod_lt _ (by decide)

theorem mem_of_chooseId_eq_none {rounds counter : Nat}
    (h : chooseId pendings rounds counter = none) :
    forall k, k < rounds ->
      indexName ((counter + 1 + k) % 4096) ∈ pendings := by
  induction rounds generalizing counter with
  | zero =>
      intro k hk
      cases hk
  | succ rounds ih =>
      unfold chooseId at h
      by_cases hin :
          pendings.inObject (indexName (nextCounter counter)) = true
      · rw [if_pos hin] at h
        intro k hk
        cases k with
        | zero =>
            have hmem := inObject_indexName.mp hin
            rw [nextCounter_eq] at hmem
            exact hmem
        | succ k =>
            have hmem := ih h k (by omega)
            rw [nextCounter_eq] at hmem
            have hmod : ((counter + 1) % 4096 + 1 + k) % 4096 =
                (counter + 1 + (k + 1)) % 4096 := by
              omega
            rw [hmod] at hmem
            exact hmem
      · rw [if_neg hin] at h
        cases h

/-- While fewer than 4096 ids are taken the loop finds a free one. -/
theorem exists_chooseId (h : pendings.keys.length < 4096) (counter : Nat) :
    exists chosen, chooseId pendings idCount counter = some chosen := by
  cases hchosen : chooseId pendings idCount counter with
  | some chosen => exact ⟨chosen, rfl⟩
  | none =>
      have hall := mem_of_chooseId_eq_none hchosen
      have hsubset : (List.range 4096).map indexName ⊆ pendings.keys := by
        intro name hname
        rcases List.mem_map.mp hname with ⟨i, hi, rfl⟩
        have hlt := List.mem_range.mp hi
        have hmem := hall ((i + 4096 - (counter + 1) % 4096) % 4096)
          (Nat.mod_lt _ (by decide))
        have hmod : (counter + 1 +
            (i + 4096 - (counter + 1) % 4096) % 4096) % 4096 = i := by
          omega
        rw [hmod] at hmem
        exact AList.mem_keys.mp hmem
      have hnodup : ((List.range 4096).map indexName).Nodup :=
        List.nodup_range.map indexName_injective
      have hlen := (List.subperm_of_subset hnodup hsubset).length_le
      rw [List.length_map, List.length_range] at hlen
      omega

/-!
## Calls
-/

/-- The promise of a call, right after the call. -/
def callPromise : Sending -> PromiseState
  | Sending.sends => PromiseState.pending
  | _ => PromiseState.rejected Reason.thrown

def Page.afterCall (page : Page) (sending : Sending) (method : String)
    (request : Json) (counter : Nat) : Page :=
  { page with
    counter := counter
    pendings := page.pendings.insert (indexName counter)
      (callEntry page.promises.length)
    promises := page.promises ++ [callPromise sending]
    sent := page.sent ++
      if sending = Sending.sends then
        [callMessage (indexName counter) method request page.token]
      else
        [] }

theorem modify_append_length {alpha : Type} (items : List alpha) (x : alpha)
    (f : alpha -> alpha) :
    (items ++ [x]).modify items.length f = items ++ [f x] := by
  induction items with
  | nil => rfl
  | cons item rest ih =>
      rw [List.cons_append, List.length_cons, List.modify_succ_cons, ih]
      rfl

theorem run_call_of_chosen
    (h : chooseId page.pendings idCount page.counter = some counter) :
    (call sending method request).run page =
      .ok page.promises.length
        (page.afterCall sending method request counter) := by
  unfold call
  rw [EStateM.run_bind, EStateM.run_get]
  cases sending with
  | sends =>
      simp only [h]
      rfl
  | stringifyThrows =>
      simp only [h]
      show EStateM.Result.ok _ { page with
        counter := counter
        pendings := _
        promises := (page.promises ++ [PromiseState.pending]).modify
          page.promises.length _ } = _
      rw [modify_append_length]
      simp [Page.afterCall, callPromise]
  | sendThrows =>
      simp only [h]
      show EStateM.Result.ok _ { page with
        counter := counter
        pendings := _
        promises := (page.promises ++ [PromiseState.pending]).modify
          page.promises.length _ } = _
      rw [modify_append_length]
      simp [Page.afterCall, callPromise]

theorem handles_call_of_chosen
    (h : chooseId page.pendings idCount page.counter = some counter)
    (sending : Sending) (method : String) (request : Json) :
    Handles page (Action.call sending method request)
      (some page.promises.length)
      (page.afterCall sending method request counter) :=
  Handles.returned (run_bind_of_ok (run_call_of_chosen h))

/-- A call that ends has taken an id that was not in pendings. -/
theorem handles_call
    (h : Handles page (Action.call sending method request) answer page') :
    exists counter,
      chooseId page.pendings idCount page.counter = some counter ∧
        answer = some page.promises.length ∧
        page' = page.afterCall sending method request counter := by
  cases hchosen : chooseId page.pendings idCount page.counter with
  | some counter =>
      have hrun : (perform (Action.call sending method request)).run page =
          .ok (some page.promises.length)
            (page.afterCall sending method request counter) :=
        run_bind_of_ok (run_call_of_chosen hchosen)
      cases h with
      | returned hreturned =>
          rw [hrun] at hreturned
          cases hreturned
          exact ⟨counter, rfl, rfl, rfl⟩
      | thrown hthrown =>
          rw [hrun] at hthrown
          cases hthrown
  | none =>
      have hcall : (call sending method request).run page =
          .error JsError.endless page := by
        unfold call
        rw [EStateM.run_bind, EStateM.run_get]
        simp only [hchosen]
        rfl
      have hrun : (perform (Action.call sending method request)).run page =
          .error JsError.endless page := run_bind_of_error hcall
      cases h with
      | returned hreturned =>
          rw [hrun] at hreturned
          cases hreturned
      | thrown hthrown =>
          rw [hrun] at hthrown
          cases hthrown

theorem callEntry_injective {promise promise' : Nat}
    (h : callEntry promise = callEntry promise') : promise = promise' := by
  injection h with hresolve _
  injection hresolve

theorem promises_afterCall_of_some {state : PromiseState}
    (h : page.promises[promise]? = some state) :
    (page.afterCall sending method request counter).promises[promise]? =
      some state :=
  (List.getElem?_append_left (List.getElem?_eq_some_iff.mp h).1).trans h

theorem promises_afterCall_last :
    (page.afterCall sending method request counter).promises[
      page.promises.length]? = some (callPromise sending) :=
  List.getElem?_concat_length

/-- An entry after a call is the one of the call or an older one. -/
theorem lookup_afterCall_iff {id : String} {entry : List Callback} :
    (page.afterCall sending method request counter).pendings.lookup id =
        some entry <->
      (id = indexName counter ∧ entry = callEntry page.promises.length) ∨
        (id ≠ indexName counter ∧ page.pendings.lookup id = some entry) := by
  by_cases hid : id = indexName counter
  · subst hid
    rw [show (page.afterCall sending method request counter).pendings.lookup
      (indexName counter) = _ from AList.lookup_insert page.pendings]
    simp [eq_comm]
  · rw [show (page.afterCall sending method request counter).pendings.lookup
      id = _ from AList.lookup_insert_ne hid]
    simp [hid]

theorem callMessage_injective {id id' method method' : String}
    {request request' : Json} {token token' : Option Json}
    (h : callMessage id method request token =
      callMessage id' method' request' token') : id = id' := by
  unfold callMessage at h
  injection h with hlist
  injection hlist with _ hlist
  injection hlist with hid _
  injection hid

/-!
## Everything that leaves the calls alone
-/

structure SameCalls (page page' : Page) : Prop where
  pendings : page'.pendings = page.pendings
  promises : page'.promises = page.promises
  called : page'.called = page.called
  sent : page'.sent = page.sent
  counter : page'.counter = page.counter

instance : Std.Refl SameCalls := ⟨fun _ => ⟨rfl, rfl, rfl, rfl, rfl⟩⟩

instance : IsTrans Page SameCalls where
  trans := fun _ _ _ hab hbc =>
    ⟨hbc.pendings.trans hab.pendings, hbc.promises.trans hab.promises,
      hbc.called.trans hab.called, hbc.sent.trans hab.sent,
      hbc.counter.trans hab.counter⟩

def IsTypeError (e : JsError) : Prop := e = JsError.typeError

theorem run_setToken (tok : Option Json) (page : Page) :
    exists token, (setToken tok).run page =
      .ok () { page with token := token } := by
  by_cases htok : truthy tok = true
  · refine ⟨tok, ?_⟩
    show EStateM.Result.ok () (if truthy tok then { page with token := tok }
      else page) = _
    rw [if_pos htok]
  · refine ⟨page.token, ?_⟩
    show EStateM.Result.ok () (if truthy tok then { page with token := tok }
      else page) = _
    rw [if_neg htok]

theorem sameCalls_setToken (tok : Option Json) :
    Moves SameCalls IsTypeError (setToken tok) where
  along := by
    intro page
    rcases run_setToken tok page with ⟨token, hrun⟩
    rw [hrun]
    exact ⟨rfl, rfl, rfl, rfl, rfl⟩
  exits := fun hrun => by cases hrun

/-- Nothing happened but calls of handlers. -/
def FiresOnly (page page' : Page) : Prop :=
  page' = { page with fired := page'.fired }

instance : Std.Refl FiresOnly := ⟨fun _ => rfl⟩

instance : IsTrans Page FiresOnly where
  trans := by
    intro first second third hfirst hsecond
    unfold FiresOnly at *
    rw [hsecond, hfirst]

theorem FiresOnly.sameCalls (h : FiresOnly page page') :
    SameCalls page page' := by
  rw [h]
  exact ⟨rfl, rfl, rfl, rfl, rfl⟩

theorem firesOnly_fireHandlers (name : String) (data : Option Json) :
    Moves FiresOnly IsTypeError (fireHandlers name data) := by
  apply moves_get_bind
  · intro page
    cases page.awaitens.lookup name with
    | some handlers => rfl
    | none =>
        exact (moves_ite (moves_throw rfl) (moves_pure _) :
          Moves FiresOnly IsTypeError _).along page
  · intro page e page' hrun
    cases hlookup : page.awaitens.lookup name with
    | some handlers =>
        simp only [hlookup] at hrun
        cases hrun
    | none =>
        simp only [hlookup] at hrun
        exact (moves_ite (moves_throw rfl) (moves_pure _) :
          Moves FiresOnly IsTypeError _).exits hrun

theorem firesOnly_fire (name : String) (data : Option Json) :
    Moves FiresOnly IsTypeError (fire name data) := by
  refine moves_bind (firesOnly_fireHandlers name data) ?_
  intro _
  refine moves_bind (moves_ite (firesOnly_fireHandlers _ data) (moves_pure _)) ?_
  intro _
  exact firesOnly_fireHandlers "*" data

theorem sameCalls_fire (name : String) (data : Option Json) :
    Moves SameCalls IsTypeError (fire name data) :=
  (firesOnly_fire name data).weaken FiresOnly.sameCalls id

theorem sameCalls_onevent (name : String) (handler : Nat) :
    Moves SameCalls IsTypeError (onevent name handler) := by
  apply moves_get_bind
  · intro page
    cases page.awaitens.lookup name with
    | some list => exact ⟨rfl, rfl, rfl, rfl, rfl⟩
    | none =>
        by_cases hname : name ∈ objectPrototype
        · simp only [hname, if_true]
          exact ⟨rfl, rfl, rfl, rfl, rfl⟩
        · simp only [hname, if_false]
          exact ⟨rfl, rfl, rfl, rfl, rfl⟩
  · intro page e page' hrun
    cases hlookup : page.awaitens.lookup name with
    | some list =>
        simp only [hlookup] at hrun
        cases hrun
    | none =>
        by_cases hname : name ∈ objectPrototype
        · simp only [hlookup, hname, if_true] at hrun
          cases hrun
          rfl
        · simp only [hlookup, hname, if_false] at hrun
          cases hrun

/-!
## Replies
-/

def Message.IsReply (m : Message) : Prop :=
  m.code = retok ∨ m.code = reterr

/-- The function of the promise that a reply calls. -/
def Message.callback (m : Message) (promise : Nat) : Callback :=
  if m.code = retok then Callback.resolve promise else Callback.reject promise

theorem promise_callback (m : Message) (promise : Nat) :
    (m.callback promise).promise = promise := by
  unfold Message.callback
  split
  · rfl
  · rfl

/-- The entry under the id is used up and one of its functions is called. -/
structure Settles (page page' : Page) (m : Message) (promise : Nat) :
    Prop where
  pendings : page'.pendings = page.pendings.erase m.id
  promises : page'.promises = page.promises.modify promise
    (settle (m.callback promise) m.ans)
  called : page'.called = page.called ++ [(m.callback promise, m.ans)]
  sent : page'.sent = page.sent
  counter : page'.counter = page.counter

theorem lookup_of_settles_iff (hsettles : Settles page page' m promise)
    {id : String} {entry : List Callback} :
    page'.pendings.lookup id = some entry <->
      id ≠ m.id ∧ page.pendings.lookup id = some entry := by
  rw [hsettles.pendings]
  by_cases hid : id = m.id
  · subst hid
    rw [AList.lookup_erase]
    simp
  · rw [AList.lookup_erase_ne hid]
    simp [hid]

theorem promises_of_settles (hsettles : Settles page page' m promise)
    {other : Nat} (hne : other ≠ promise) :
    page'.promises[other]? = page.promises[other]? := by
  rw [hsettles.promises, List.getElem?_modify_ne _ _ (Ne.symm hne)]

theorem settle_ne_pending (f : Callback) (ans : Option Json)
    (state : PromiseState) : settle f ans state ≠ PromiseState.pending := by
  cases state with
  | pending =>
      cases f with
      | resolve _ => exact PromiseState.noConfusion
      | reject _ => exact PromiseState.noConfusion
  | fulfilled value => exact PromiseState.noConfusion
  | rejected reason => exact PromiseState.noConfusion

theorem not_pending_of_settles (hsettles : Settles page page' m promise) :
    page'.promises[promise]? ≠ some PromiseState.pending := by
  rw [hsettles.promises, List.getElem?_modify_eq]
  intro hpending
  rcases Option.map_eq_some_iff.mp hpending with ⟨state, _, hstate⟩
  exact settle_ne_pending _ _ _ hstate

theorem run_reply_of_element {id : String} {ans : Option Json} {offset : Nat}
    {entry : List Callback} {f : Callback}
    (hlookup : page.pendings.lookup id = some entry)
    (hf : entry[offset]? = some f) :
    (reply id ans offset).run page =
      .ok () (Page.invoke { page with pendings := page.pendings.erase id }
        f ans) := by
  have hmem : id ∈ page.pendings := by
    rw [← AList.lookup_isSome, hlookup]
    rfl
  have hin : page.pendings.inObject id = true := by
    simp [Properties.inObject, hmem]
  unfold reply
  rw [EStateM.run_bind, EStateM.run_get]
  simp only [hin, if_true, hlookup, elementNamed_indexName, hf]
  rfl

/-- Without an entry of its own under the id, `reply` changes nothing. -/
theorem reply_of_notMem {id : String} {ans : Option Json}
    {offset : Nat} (h : id ∉ page.pendings) :
    (reply id ans offset).run page = .ok () page ∨
      (reply id ans offset).run page = .error JsError.typeError page := by
  unfold reply
  rw [EStateM.run_bind, EStateM.run_get]
  by_cases hin : page.pendings.inObject id = true
  · right
    simp only [hin, if_true, AList.lookup_eq_none.mpr h]
    rfl
  · left
    simp only [hin]
    rfl

theorem run_onmessage_of_reply (h : m.IsReply) :
    (onmessage m).run page =
      (reply m.id m.ans (if m.code = retok then 0 else 1)).run
        (finalState ((setToken m.token).run page)) := by
  show ((if m.code = retok then reply m.id m.ans 0
    else if m.code = reterr then reply m.id m.ans 1
      else fire m.id m.ans).run _) = _
  rcases h with hcode | hcode
  · rw [if_pos hcode, if_pos hcode]
    rfl
  · have hne : ¬ m.code = retok := by
      rw [hcode]
      decide
    rw [if_neg hne, if_neg hne, if_pos hcode]
    rfl

theorem onmessage_of_event (h : ¬ m.IsReply) :
    onmessage m = setToken m.token >>= fun _ => fire m.id m.ans := by
  unfold onmessage
  rw [if_neg (fun hcode => h (Or.inl hcode)),
    if_neg (fun hcode => h (Or.inr hcode))]

theorem final_of_handles {action : Action}
    (h : Handles page action answer page') :
    page' = finalState ((perform action).run page) := by
  cases h with
  | returned hreturned =>
      rw [hreturned]
      rfl
  | thrown hthrown =>
      rw [hthrown]
      rfl

theorem handles_message_of_ok
    (h : (onmessage m).run page = .ok () page') :
    Handles page (Action.message m) none page' :=
  Handles.returned (run_bind_of_ok h)

theorem handles_message_of_typeError
    (h : (onmessage m).run page = .error JsError.typeError page') :
    Handles page (Action.message m) none page' :=
  Handles.thrown (run_bind_of_error h)

theorem exists_handles_of_entry (hreply : m.IsReply)
    (hlookup : page.pendings.lookup m.id = some (callEntry promise)) :
    exists page', Handles page (Action.message m) none page' ∧
      Settles page page' m promise := by
  have hsame := (sameCalls_setToken m.token).along page
  have hcalled : (callEntry promise)[if m.code = retok then 0 else 1]? =
      some (m.callback promise) := by
    unfold Message.callback
    split
    · rfl
    · rfl
  have hrun := (run_onmessage_of_reply hreply).trans
    (run_reply_of_element (hsame.pendings ▸ hlookup) hcalled)
  refine ⟨_, handles_message_of_ok hrun, ?_⟩
  constructor
  · exact congrArg (AList.erase m.id) hsame.pendings
  · show List.modify _ _ _ = _
    rw [hsame.promises, promise_callback]
  · exact congrArg (· ++ _) hsame.called
  · exact hsame.sent
  · exact hsame.counter

/-- Everything but a reply for an entry leaves the calls alone. -/
theorem exists_handles_of_other (hother : m.IsReply -> m.id ∉ page.pendings) :
    exists page', Handles page (Action.message m) none page' ∧
      SameCalls page page' := by
  by_cases hreply : m.IsReply
  · have hsame := (sameCalls_setToken m.token).along page
    have hnotMem := hother hreply
    rw [← hsame.pendings] at hnotMem
    rcases reply_of_notMem hnotMem with hreplied | hreplied
    · refine ⟨_, handles_message_of_ok ?_, hsame⟩
      rw [run_onmessage_of_reply hreply]
      exact hreplied
    · refine ⟨_, handles_message_of_typeError ?_, hsame⟩
      rw [run_onmessage_of_reply hreply]
      exact hreplied
  · have hmoves : Moves SameCalls IsTypeError (onmessage m) := by
      rw [onmessage_of_event hreply]
      exact moves_bind (sameCalls_setToken m.token)
        fun _ => sameCalls_fire m.id m.ans
    cases hrun : (onmessage m).run page with
    | ok _ page' => exact ⟨page', handles_message_of_ok hrun, hmoves.ok hrun⟩
    | error e page' =>
        have he : e = JsError.typeError := hmoves.exits hrun
        subst he
        exact ⟨page', handles_message_of_typeError hrun, hmoves.error hrun⟩

theorem handles_message_of_entry (hreply : m.IsReply)
    (hlookup : page.pendings.lookup m.id = some (callEntry promise))
    (h : Handles page (Action.message m) answer page') :
    Settles page page' m promise := by
  rcases exists_handles_of_entry hreply hlookup with ⟨page1, hends, hsettles⟩
  rw [final_of_handles h, ← final_of_handles hends]
  exact hsettles

theorem handles_message_of_other
    (hother : m.IsReply -> m.id ∉ page.pendings)
    (h : Handles page (Action.message m) answer page') :
    SameCalls page page' := by
  rcases exists_handles_of_other hother with ⟨page1, hends, hsame⟩
  rw [final_of_handles h, ← final_of_handles hends]
  exact hsame

theorem handles_onevent {name : String} {handler : Nat}
    (h : Handles page (Action.onevent name handler) answer page') :
    SameCalls page page' := by
  rw [final_of_handles h, show perform (Action.onevent name handler) =
    onevent name handler >>= fun _ => pure none from rfl, finalState_bind_pure]
  exact (sameCalls_onevent name handler).along page

end Websock
end XdsService

import XdsService.Websock.Steps

/-!
# The loop that chooses an id

`chooseId` gives up after 4096 rounds.  The loop of `call` itself has no such
bound; its runs are described below, and a run that ends does so within
4096 rounds, since by then every id has been tried.
-/

namespace XdsService
namespace Websock

open Foundation
open Program

/-- The do-while loop ends after `rounds` rounds with the id `chosen`. -/
inductive LoopEnds (pendings : Properties (List Callback)) :
    Nat -> Nat -> Nat -> Prop where
  | free {counter : Nat} :
      pendings.inObject (indexName (nextCounter counter)) = false ->
      LoopEnds pendings counter 1 (nextCounter counter)
  | taken {counter rounds chosen : Nat} :
      pendings.inObject (indexName (nextCounter counter)) = true ->
      LoopEnds pendings (nextCounter counter) rounds chosen ->
      LoopEnds pendings counter (rounds + 1) chosen

variable {page : Page} {pendings : Properties (List Callback)}
variable {counter rounds chosen : Nat}

theorem chooseId_eq_some_iff {bound : Nat} :
    chooseId pendings bound counter = some chosen <->
      exists rounds, rounds ≤ bound ∧
        LoopEnds pendings counter rounds chosen := by
  induction bound generalizing counter with
  | zero =>
      constructor
      · intro h
        cases h
      · intro h
        rcases h with ⟨rounds, hrounds, hends⟩
        cases hends with
        | free _ => cases hrounds
        | taken _ _ => cases hrounds
  | succ bound ih =>
      unfold chooseId
      cases hin : pendings.inObject (indexName (nextCounter counter)) with
      | true =>
          rw [if_pos rfl, ih]
          constructor
          · intro h
            rcases h with ⟨rounds, hrounds, hends⟩
            exact ⟨rounds + 1, by omega, LoopEnds.taken hin hends⟩
          · intro h
            rcases h with ⟨rounds, hrounds, hends⟩
            cases hends with
            | free hfree =>
                rw [hin] at hfree
                cases hfree
            | taken _ hends => exact ⟨_, by omega, hends⟩
      | false =>
          rw [if_neg (by decide)]
          constructor
          · intro h
            cases h
            exact ⟨1, by omega, LoopEnds.free hin⟩
          · intro h
            rcases h with ⟨rounds, _, hends⟩
            cases hends with
            | free _ => rfl
            | taken htaken _ =>
                rw [hin] at htaken
                cases htaken

/-- The id is the next one that is free, counted modulo 4096. -/
theorem LoopEnds.chosen_eq (h : LoopEnds pendings counter rounds chosen) :
    0 < rounds ∧ chosen = (counter + rounds) % 4096 ∧
      indexName chosen ∉ pendings ∧
      forall k, 0 < k -> k < rounds ->
        indexName ((counter + k) % 4096) ∈ pendings := by
  induction h with
  | @free counter hfree =>
      refine ⟨by omega, nextCounter_eq counter, ?_, by omega⟩
      intro hmem
      rw [inObject_indexName.mpr hmem] at hfree
      cases hfree
  | @taken counter rounds chosen htaken _ ih =>
      rcases ih with ⟨hpos, hchosen, hfree, hskipped⟩
      rw [nextCounter_eq] at hchosen
      refine ⟨by omega, by omega, hfree, ?_⟩
      intro k hk hlt
      rcases Nat.eq_or_lt_of_le hk with rfl | hlater
      · rw [← nextCounter_eq]
        exact inObject_indexName.mp htaken
      · have hmem := hskipped (k - 1) (by omega) (by omega)
        rw [nextCounter_eq] at hmem
        rw [show (counter + k) % 4096 =
          ((counter + 1) % 4096 + (k - 1)) % 4096 by omega]
        exact hmem

/-- After 4096 rounds all ids were found taken, the chosen one included. -/
theorem LoopEnds.rounds_le (h : LoopEnds pendings counter rounds chosen) :
    rounds ≤ 4096 := by
  rcases h.chosen_eq with ⟨_, hchosen, hfree, hskipped⟩
  by_contra hmany
  have hsame : chosen = (counter + (rounds - 4096)) % 4096 := by omega
  apply hfree
  rw [hsame]
  exact hskipped (rounds - 4096) (by omega) (by omega)

theorem loopEnds_iff_chooseId :
    (exists rounds, LoopEnds pendings counter rounds chosen) <->
      chooseId pendings idCount counter = some chosen := by
  rw [chooseId_eq_some_iff]
  constructor
  · intro h
    rcases h with ⟨rounds, hends⟩
    exact ⟨rounds, hends.rounds_le, hends⟩
  · intro h
    rcases h with ⟨rounds, _, hends⟩
    exact ⟨rounds, hends⟩

theorem exists_chooseId_iff_free (pendings : Properties (List Callback))
    (counter : Nat) :
    (exists chosen, chooseId pendings idCount counter = some chosen) <->
      exists i, i < 4096 ∧ indexName i ∉ pendings := by
  constructor
  · intro h
    rcases h with ⟨chosen, hchosen⟩
    exact ⟨chosen, chooseId_eq_some hchosen⟩
  · intro h
    rcases h with ⟨i, hi, hfree⟩
    cases hchosen : chooseId pendings idCount counter with
    | some chosen => exact ⟨chosen, rfl⟩
    | none =>
        have hmem := mem_of_chooseId_eq_none hchosen
          ((i + 4096 - (counter + 1) % 4096) % 4096) (Nat.mod_lt _ (by decide))
        rw [show (counter + 1 +
            (i + 4096 - (counter + 1) % 4096) % 4096) % 4096 = i by omega]
          at hmem
        exact absurd hmem hfree

/-- A call returns with the id the loop ended with filed and sent. -/
theorem run_call_eq_ok_iff {sending : Sending} {method : String}
    {request : Json} {promise : Nat} {page' : Page} :
    (call sending method request).run page = .ok promise page' <->
      exists rounds chosen,
        LoopEnds page.pendings page.counter rounds chosen ∧
          promise = page.promises.length ∧
          page' = page.afterCall sending method request chosen := by
  constructor
  · intro hrun
    have hhandles : Handles page (Action.call sending method request)
        (some promise) page' := Handles.returned (run_bind_of_ok hrun)
    rcases handles_call hhandles with ⟨chosen, hchosen, hanswer, hpage⟩
    rcases loopEnds_iff_chooseId.mpr hchosen with ⟨rounds, hends⟩
    exact ⟨rounds, chosen, hends, Option.some.inj hanswer, hpage⟩
  · intro h
    rcases h with ⟨rounds, chosen, hends, rfl, rfl⟩
    exact run_call_of_chosen (loopEnds_iff_chooseId.mp ⟨rounds, hends⟩)

theorem loopEnds_iff_free (page : Page) :
    (exists rounds chosen,
        LoopEnds page.pendings page.counter rounds chosen) <->
      exists i, i < 4096 ∧ indexName i ∉ page.pendings := by
  rw [← exists_chooseId_iff_free page.pendings page.counter, exists_comm]
  exact exists_congr fun chosen => loopEnds_iff_chooseId

/--
The loop ends, and with it the call, exactly if an id is free; it takes the next
free one after at most 4096 rounds and skips taken ones only.  A call that
returns has made its entry under that id and sent its message with it.
-/
theorem allocation_ends_iff (page : Page) :
    ((exists rounds chosen,
        LoopEnds page.pendings page.counter rounds chosen) <->
      exists i, i < 4096 ∧ indexName i ∉ page.pendings) ∧
    (forall rounds chosen,
      LoopEnds page.pendings page.counter rounds chosen ->
        rounds ≤ 4096 ∧ chosen < 4096 ∧ indexName chosen ∉ page.pendings ∧
          chosen = (page.counter + rounds) % 4096 ∧
          forall k, 0 < k -> k < rounds ->
            indexName ((page.counter + k) % 4096) ∈ page.pendings) ∧
    (forall sending method request,
      (exists promise page',
          (call sending method request).run page = .ok promise page') <->
        exists i, i < 4096 ∧ indexName i ∉ page.pendings) ∧
    (forall sending method request promise page',
      (call sending method request).run page = .ok promise page' <->
        exists rounds chosen,
          LoopEnds page.pendings page.counter rounds chosen ∧
            promise = page.promises.length ∧
            page' = page.afterCall sending method request chosen) := by
  refine ⟨loopEnds_iff_free page, ?_, ?_, ?_⟩
  · intro rounds chosen hends
    rcases hends.chosen_eq with ⟨_, hchosen, hfree, hskipped⟩
    refine ⟨hends.rounds_le, ?_, hfree, hchosen, hskipped⟩
    rw [hchosen]
    exact Nat.mod_lt _ (by decide)
  · intro sending method request
    rw [← loopEnds_iff_free page]
    constructor
    · intro h
      rcases h with ⟨promise, page', hrun⟩
      rcases run_call_eq_ok_iff.mp hrun with ⟨rounds, chosen, hends, _⟩
      exact ⟨rounds, chosen, hends⟩
    · intro h
      rcases h with ⟨rounds, chosen, hends⟩
      exact ⟨_, _, run_call_eq_ok_iff.mpr ⟨rounds, chosen, hends, rfl, rfl⟩⟩
  · intro sending method request promise page'
    exact run_call_eq_ok_iff

end Websock
end XdsService

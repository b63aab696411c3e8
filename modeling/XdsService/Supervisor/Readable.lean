import XdsService.Supervisor.Collection

/-!
# Readable answers

The answers about a listed daemon describe the entry that it is to have in the
table.  Where the callback can read them that entry is the outcome; where it
cannot it crashes.
-/

namespace XdsService
namespace Supervisor

open Foundation
open Program

variable {lib : Libs} {env : Env} {apiname : Option String}
variable {w : World} {pid : Int} {reply : Reply} {answers : Answers}
variable {d : Daemon}

/-!
## The daemon that the answers describe
-/

/-- The daemon of a config reply; none if it does not decode or is ignored. -/
def describedDaemon (lib : Libs) (apiname : Option String) (pid : Int)
    (response : Json) : Option Daemon :=
  match response.getEx "response" with
  | none => some { Daemon.zeroed with pid := pid }
  | some config =>
      match lib.unpackConfig config with
      | none => none
      | some parts =>
          if isIgnored apiname (configName lib parts.name) then
            none
          else
            some (configuredDaemon lib pid config parts
              (parts.wsServers.items?.getD [])
              (parts.wsClients.items?.getD []))

def Daemon.withApis (d : Daemon) (response : Json) : Daemon :=
  match (response.getEx "response").bind (Json.getEx "apis") with
  | some (Json.object members) =>
      { d with
        apis := Json.object
          (members.filter fun m => decide (m.1 ≠ "monitor")) }
  | _ => d

def Answers.listed (lib : Libs) (apiname : Option String)
    (answers : Answers) : Option Daemon :=
  if answers.config.rc < 0 ∨ answers.apis.rc < 0 then
    none
  else
    answers.pid.bind fun pid =>
      (describedDaemon lib apiname pid answers.config.response).map
        fun d => d.withApis answers.apis.response

def Answers.ConfigFails (answers : Answers) : Prop :=
  answers.pid ≠ none ∧ answers.config.rc < 0

theorem describedDaemon_eq_some {pid : Int} {response config : Json}
    (hconfig : response.getEx "response" = some config)
    (h : describedDaemon lib apiname pid response = some d) :
    exists parts, lib.unpackConfig config = some parts ∧
      isIgnored apiname (configName lib parts.name) = false ∧
      d = configuredDaemon lib pid config parts
        (parts.wsServers.items?.getD []) (parts.wsClients.items?.getD []) := by
  unfold describedDaemon at h
  rw [hconfig] at h
  cases hparts : lib.unpackConfig config with
  | none =>
      simp only [hparts] at h
      cases h
  | some parts =>
      simp only [hparts] at h
      cases hignored : isIgnored apiname (configName lib parts.name) with
      | true =>
          rw [hignored] at h
          cases h
      | false =>
          rw [hignored] at h
          cases h
          exact ⟨parts, rfl, hignored, rfl⟩

theorem listed_eq_some (h : answers.listed lib apiname = some d) :
    0 ≤ answers.config.rc ∧ 0 ≤ answers.apis.rc ∧
      exists pid described, answers.pid = some pid ∧
        describedDaemon lib apiname pid answers.config.response =
          some described ∧
        d = described.withApis answers.apis.response := by
  by_cases hrc : answers.config.rc < 0 ∨ answers.apis.rc < 0
  · rw [Answers.listed, if_pos hrc] at h
    cases h
  · rw [Answers.listed, if_neg hrc] at h
    rw [not_or, Int.not_lt, Int.not_lt] at hrc
    rcases Option.bind_eq_some_iff.mp h with ⟨pid, hpid, hmap⟩
    rcases Option.map_eq_some_iff.mp hmap with ⟨described, hdescribed, rfl⟩
    exact ⟨hrc.1, hrc.2, pid, described, hpid, hdescribed, rfl⟩

@[simp] theorem withApis_pid (d : Daemon) (response : Json) :
    (d.withApis response).pid = d.pid := by
  unfold Daemon.withApis
  split <;> rfl

/-!
## Replies that the callback can read
-/

/-- The socket lists of a config that is not ignored are arrays. -/
def SocketsReadable (lib : Libs) (apiname : Option String)
    (response : Json) : Prop :=
  forall config parts, response.getEx "response" = some config ->
    lib.unpackConfig config = some parts ->
    isIgnored apiname (configName lib parts.name) = false ->
    parts.wsServers.isArray = true ∧ parts.wsClients.isArray = true

/-- The apis of a do reply, if there are any, are an object. -/
def ApisReadable (response : Json) : Prop :=
  forall apis,
    (response.getEx "response").bind (Json.getEx "apis") = some apis ->
    exists members, apis = Json.object members

/-- There is memory for the daemon, and what it is asked is readable. -/
structure Answers.Readable (lib : Libs) (apiname : Option String)
    (answers : Answers) : Prop where
  memory : answers.pid ≠ none -> answers.allocated = true
  sockets : answers.pid ≠ none -> 0 ≤ answers.config.rc ->
    SocketsReadable lib apiname answers.config.response
  apis : forall pid, answers.pid = some pid -> 0 ≤ answers.config.rc ->
    describedDaemon lib apiname pid answers.config.response ≠ none ->
    0 ≤ answers.apis.rc -> ApisReadable answers.apis.response

theorem isArray_of_items? {j : Json} {items : List Json}
    (h : j.items? = some items) : j.isArray = true := by
  rw [Json.items?_eq_some_iff.mp h]
  rfl

theorem isArray_of_items?_none {j : Json} (h : j.items? = none) :
    j.isArray = false := by
  cases j with
  | array items => cases h
  | _ => rfl

theorem configOutcome_of_failed (h : reply.rc < 0) :
    configOutcome lib apiname pid reply = Outcome.configFailed reply.rc :=
  if_pos h

theorem socketsReadable_of_no_parts
    (h : forall config, reply.response.getEx "response" = some config ->
      lib.unpackConfig config = none) :
    SocketsReadable lib apiname reply.response := by
  intro config parts hconfig hparts
  rw [h config hconfig] at hparts
  cases hparts

/-- Of a config that is there and can be unpacked it depends on the parts. -/
theorem socketsReadable_iff_of_parts {config : Json} {parts : ConfigParts}
    (hconfig : reply.response.getEx "response" = some config)
    (hparts : lib.unpackConfig config = some parts) :
    SocketsReadable lib apiname reply.response <->
      (isIgnored apiname (configName lib parts.name) = false ->
        parts.wsServers.isArray = true ∧ parts.wsClients.isArray = true) := by
  constructor
  · intro h
    exact h config parts hconfig hparts
  · intro h config' parts' hconfig' hparts'
    rw [hconfig] at hconfig'
    cases hconfig'
    rw [hparts] at hparts'
    cases hparts'
    exact h

/-- An accepted config reply describes a daemon, or none, or is unreadable. -/
theorem configOutcome_cases (hrc : 0 ≤ reply.rc) (pid : Int) :
    (SocketsReadable lib apiname reply.response ∧
      exists d, describedDaemon lib apiname pid reply.response = some d ∧
        configOutcome lib apiname pid reply = Outcome.found d) ∨
      (SocketsReadable lib apiname reply.response ∧
        describedDaemon lib apiname pid reply.response = none ∧
        configOutcome lib apiname pid reply = Outcome.skipped) ∨
      (¬ SocketsReadable lib apiname reply.response ∧
        configOutcome lib apiname pid reply =
          Outcome.crashed Fault.notArray) := by
  unfold configOutcome describedDaemon
  rw [if_neg (Int.not_lt.mpr hrc)]
  cases hconfig : reply.response.getEx "response" with
  | none =>
      refine Or.inl ⟨socketsReadable_of_no_parts ?_, _, rfl, rfl⟩
      intro config hconfig'
      rw [hconfig] at hconfig'
      cases hconfig'
  | some config =>
      cases hparts : lib.unpackConfig config with
      | none =>
          refine Or.inr (Or.inl ⟨socketsReadable_of_no_parts ?_,
            by simp only [hparts], by simp only [hparts]⟩)
          intro config' hconfig'
          rw [hconfig] at hconfig'
          cases hconfig'
          exact hparts
      | some parts =>
          rw [socketsReadable_iff_of_parts hconfig hparts]
          simp only [hparts]
          cases hignored : isIgnored apiname (configName lib parts.name) with
          | true =>
              exact Or.inr (Or.inl ⟨fun h => Bool.noConfusion h, rfl, rfl⟩)
          | false =>
              simp only [Bool.false_eq_true, if_false, forall_const]
              cases hservers : parts.wsServers.items? with
              | none => simp [isArray_of_items?_none hservers]
              | some servers =>
                  cases hclients : parts.wsClients.items? with
                  | none => simp [isArray_of_items?_none hclients]
                  | some clients =>
                      exact Or.inl ⟨⟨isArray_of_items? hservers,
                        isArray_of_items? hclients⟩, _, rfl, rfl⟩

theorem apisOutcome_of_failed (d : Daemon) (h : reply.rc < 0) :
    apisOutcome d reply = Outcome.skipped :=
  if_pos h

/-- The apis of an accepted do reply are readable, or the callback crashes. -/
theorem apisOutcome_cases (hrc : 0 ≤ reply.rc) (d : Daemon) :
    (ApisReadable reply.response ∧
        apisOutcome d reply = Outcome.found (d.withApis reply.response)) ∨
      (¬ ApisReadable reply.response ∧
        apisOutcome d reply = Outcome.crashed Fault.notObject) := by
  unfold apisOutcome Daemon.withApis ApisReadable
  rw [if_neg (Int.not_lt.mpr hrc)]
  cases (reply.response.getEx "response").bind (Json.getEx "apis") with
  | none =>
      refine Or.inl ⟨?_, rfl⟩
      intro apis hapis
      cases hapis
  | some apis =>
      cases apis with
      | object members =>
          refine Or.inl ⟨?_, rfl⟩
          intro apis hapis
          cases hapis
          exact ⟨members, rfl⟩
      | _ =>
          refine Or.inr ⟨?_, rfl⟩
          intro hall
          rcases hall _ rfl with ⟨members, hmembers⟩
          cases hmembers

/-- What the callback makes of readable answers. -/
structure Answers.Handled (lib : Libs) (apiname : Option String)
    (answers : Answers) : Prop where
  crash : (answers.outcome lib apiname).isCrash = false
  daemon : (answers.outcome lib apiname).daemon? = answers.listed lib apiname
  failure : (answers.outcome lib apiname).isConfigFailure = true <->
    answers.ConfigFails
  code : forall n, answers.outcome lib apiname = Outcome.configFailed n ->
    n < 0

/-- The callback handles readable answers, and crashes on any others. -/
inductive Answers.Ends (lib : Libs) (apiname : Option String)
    (answers : Answers) : Prop where
  | handled :
      answers.Readable lib apiname -> answers.Handled lib apiname ->
      Answers.Ends lib apiname answers
  | crashed (f : Fault) :
      ¬ answers.Readable lib apiname -> f ≠ Fault.tableOverrun ->
      answers.outcome lib apiname = Outcome.crashed f ->
      Answers.Ends lib apiname answers

theorem handled_of_eq {o : Outcome}
    (houtcome : answers.outcome lib apiname = o) (hcrash : o.isCrash = false)
    (hdaemon : o.daemon? = answers.listed lib apiname)
    (hfailure : o.isConfigFailure = true <-> answers.ConfigFails)
    (hcode : forall n, o = Outcome.configFailed n -> n < 0) :
    answers.Handled lib apiname := by
  subst houtcome
  exact ⟨hcrash, hdaemon, hfailure, hcode⟩

def askedAnswers (pid : Int) (config apis : Reply) : Answers :=
  ⟨some pid, true, config, apis⟩

section Asked

variable {config apis : Reply}

theorem listed_of_accepted (hconfig : 0 ≤ config.rc) (hapis : 0 ≤ apis.rc) :
    (askedAnswers pid config apis).listed lib apiname =
      (describedDaemon lib apiname pid config.response).map
        fun d => d.withApis apis.response :=
  if_neg fun h => by
    rcases h with h | h
    · exact absurd h (Int.not_lt.mpr hconfig)
    · exact absurd h (Int.not_lt.mpr hapis)

theorem listed_of_not_described
    (h : describedDaemon lib apiname pid config.response = none) :
    (askedAnswers pid config apis).listed lib apiname = none := by
  by_cases hrc : config.rc < 0 ∨ apis.rc < 0
  · exact if_pos hrc
  · rw [not_or, Int.not_lt, Int.not_lt] at hrc
    rw [listed_of_accepted hrc.1 hrc.2, h]
    rfl

theorem not_configFails (hconfig : 0 ≤ config.rc) (pid : Int)
    (apis : Reply) : ¬ (askedAnswers pid config apis).ConfigFails :=
  fun h => absurd h.2 (Int.not_lt.mpr hconfig)

theorem outcome_askedAnswers (lib : Libs) (apiname : Option String)
    (pid : Int) (config apis : Reply) :
    (askedAnswers pid config apis).outcome lib apiname =
      askedOutcome lib apiname pid config apis := rfl

/-- Behind a config that describes a daemon the do reply decides. -/
theorem ends_of_found {d : Daemon} (hconfig : 0 ≤ config.rc)
    (hsockets : SocketsReadable lib apiname config.response)
    (hdescribed : describedDaemon lib apiname pid config.response = some d)
    (hfound : configOutcome lib apiname pid config = Outcome.found d) :
    (askedAnswers pid config apis).Ends lib apiname := by
  have houtcome : (askedAnswers pid config apis).outcome lib apiname =
      apisOutcome d apis := by
    rw [outcome_askedAnswers, askedOutcome, hfound]
  have hfails := not_configFails hconfig pid apis
  by_cases hapis : apis.rc < 0
  · refine Answers.Ends.handled ?_ ?_
    · refine ⟨fun _ => rfl, fun _ _ => hsockets, fun _ _ _ _ hrc => ?_⟩
      exact absurd hapis (Int.not_lt.mpr hrc)
    · refine handled_of_eq (houtcome.trans (apisOutcome_of_failed d hapis)) rfl
        (if_pos (Or.inr hapis)).symm ?_ (fun n h => by cases h)
      exact iff_of_false Bool.false_ne_true hfails
  · have hrc := Int.not_lt.mp hapis
    rcases apisOutcome_cases hrc d with
      ⟨hreadable, hstored⟩ | ⟨hreadable, hcrashed⟩
    · refine Answers.Ends.handled ?_ ?_
      · exact ⟨fun _ => rfl, fun _ _ => hsockets,
          fun _ _ _ _ _ => hreadable⟩
      · refine handled_of_eq (houtcome.trans hstored) rfl ?_ ?_
          (fun n h => by cases h)
        · rw [listed_of_accepted hconfig hrc, hdescribed]
          rfl
        · exact iff_of_false Bool.false_ne_true hfails
    · refine Answers.Ends.crashed Fault.notObject (fun h => ?_) (by decide)
        (houtcome.trans hcrashed)
      refine hreadable (h.apis pid rfl hconfig ?_ hrc)
      exact fun hnone => Option.some_ne_none d (hdescribed.symm.trans hnone)

theorem ends_of_asked (pid : Int) (config apis : Reply) :
    (askedAnswers pid config apis).Ends lib apiname := by
  have houtcome := outcome_askedAnswers lib apiname pid config apis
  by_cases hrc : config.rc < 0
  · rw [askedOutcome, configOutcome_of_failed hrc] at houtcome
    refine Answers.Ends.handled ?_ ?_
    · refine ⟨fun _ => rfl, fun _ h => ?_, fun _ _ h => ?_⟩
      · exact absurd hrc (Int.not_lt.mpr h)
      · exact absurd hrc (Int.not_lt.mpr h)
    · refine handled_of_eq houtcome rfl (if_pos (Or.inl hrc)).symm ?_ ?_
      · exact iff_of_true rfl ⟨Option.some_ne_none pid, hrc⟩
      · intro n hn
        cases hn
        exact hrc
  · have hconfig := Int.not_lt.mp hrc
    rcases configOutcome_cases hconfig pid with
      ⟨hsockets, d, hdescribed, hfound⟩ | ⟨hsockets, hdescribed, hskipped⟩ |
        ⟨hsockets, hcrashed⟩
    · exact ends_of_found hconfig hsockets hdescribed hfound
    · rw [askedOutcome, hskipped] at houtcome
      refine Answers.Ends.handled ?_ ?_
      · refine ⟨fun _ => rfl, fun _ _ => hsockets, fun p hp _ h => ?_⟩
        cases hp
        exact absurd hdescribed h
      · refine handled_of_eq houtcome rfl
          (listed_of_not_described hdescribed).symm ?_ (fun n h => by cases h)
        exact iff_of_false Bool.false_ne_true (not_configFails hconfig pid apis)
    · rw [askedOutcome, hcrashed] at houtcome
      refine Answers.Ends.crashed Fault.notArray (fun h => ?_) (by decide)
        houtcome
      exact hsockets (h.sockets (Option.some_ne_none pid) hconfig)

end Asked

theorem ends_of_answers (lib : Libs) (apiname : Option String)
    (answers : Answers) : answers.Ends lib apiname := by
  rcases answers with ⟨pid, allocated, config, apis⟩
  cases pid with
  | none =>
      refine Answers.Ends.handled ?_ ?_
      · constructor
        · intro h
          exact absurd rfl h
        · intro h
          exact absurd rfl h
        · intro pid hpid
          cases hpid
      · refine handled_of_eq (o := Outcome.skipped) rfl rfl ?_ ?_
          (fun n h => by cases h)
        · simp [Answers.listed, Outcome.daemon?]
        · exact iff_of_false Bool.false_ne_true fun h => h.1 rfl
  | some pid =>
      cases allocated with
      | false =>
          refine Answers.Ends.crashed Fault.nullDaemon (fun h => ?_) (by decide)
            rfl
          exact absurd (h.memory (Option.some_ne_none pid)) Bool.false_ne_true
      | true => exact ends_of_asked pid config apis

theorem isConfigFailure_iff (answers : Answers)
    (h : answers.Readable lib apiname) :
    (answers.outcome lib apiname).isConfigFailure = true <->
      answers.ConfigFails := by
  cases ends_of_answers lib apiname answers with
  | handled _ hhandled => exact hhandled.failure
  | crashed f hreadable => exact absurd h hreadable

theorem isCrash_iff (answers : Answers) :
    (answers.outcome lib apiname).isCrash = false <->
      answers.Readable lib apiname := by
  cases ends_of_answers lib apiname answers with
  | handled hreadable hhandled => exact iff_of_true hhandled.crash hreadable
  | crashed f hreadable _ houtcome =>
      rw [houtcome]
      exact iff_of_false (by simp [Outcome.isCrash]) hreadable

theorem entry_eq_listed {answers : Answers}
    (h : answers.Readable lib apiname) :
    (answers.outcome lib apiname).daemon? = answers.listed lib apiname := by
  cases ends_of_answers lib apiname answers with
  | handled _ hhandled => exact hhandled.daemon
  | crashed f hreadable => exact absurd h hreadable

theorem outcome_ne_tableOverrun (answers : Answers) :
    answers.outcome lib apiname ≠ Outcome.crashed Fault.tableOverrun := by
  intro h
  rcases fault_of_outcome h with hfault | hfault | hfault
  · cases hfault
  · cases hfault
  · cases hfault

theorem neg_of_configFailed {answers : Answers} {n : Int}
    (h : answers.outcome lib apiname = Outcome.configFailed n) : n < 0 := by
  cases ends_of_answers lib apiname answers with
  | handled _ hhandled => exact hhandled.code n h
  | crashed f _ _ houtcome =>
      rw [houtcome] at h
      cases h

theorem not_socketsReadable_of_crashed
    (h : answers.outcome lib apiname = Outcome.crashed Fault.notArray) :
    answers.pid ≠ none ∧ 0 ≤ answers.config.rc ∧
      ¬ SocketsReadable lib apiname answers.config.response := by
  rcases answers with ⟨pid, allocated, config, apis⟩
  cases pid with
  | none => cases h
  | some pid =>
      cases allocated with
      | false => cases h
      | true =>
          change askedOutcome lib apiname pid config apis = _ at h
          refine ⟨Option.some_ne_none pid, ?_⟩
          by_cases hrc : config.rc < 0
          · rw [askedOutcome, configOutcome_of_failed hrc] at h
            cases h
          · have hconfig := Int.not_lt.mp hrc
            rcases configOutcome_cases hconfig pid with
              ⟨_, d, _, hfound⟩ | ⟨_, _, hskipped⟩ | ⟨hsockets, _⟩
            · rw [askedOutcome, hfound] at h
              change apisOutcome d apis = _ at h
              by_cases hapis : apis.rc < 0
              · rw [apisOutcome_of_failed d hapis] at h
                cases h
              · rcases apisOutcome_cases (Int.not_lt.mp hapis) d with
                  ⟨_, hstored⟩ | ⟨_, hcrashed⟩
                · rw [hstored] at h
                  cases h
                · rw [hcrashed] at h
                  cases h
            · rw [askedOutcome, hskipped] at h
              cases h
            · exact ⟨hconfig, hsockets⟩

end Supervisor
end XdsService

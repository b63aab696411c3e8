import XdsService.Supervisor.Api

/-!
# A collection as a fold over answers

What the supervisor answers about one listed daemon decides alone what the
callback makes of that daemon.  A collection is the fold of these outcomes
over the return code and the table.
-/

namespace XdsService
namespace Supervisor

open Foundation
open Program

/-!
## One listed daemon
-/

inductive Outcome where
  | crashed (f : Fault)
  | skipped
  | configFailed (rc : Int)
  | found (d : Daemon)

def Outcome.daemon? : Outcome -> Option Daemon
  | found d => some d
  | _ => none

def Outcome.isCrash : Outcome -> Bool
  | crashed _ => true
  | _ => false

def Outcome.isConfigFailure : Outcome -> Bool
  | configFailed _ => true
  | _ => false

/-- The daemon of an accepted config. -/
def configuredDaemon (lib : Libs) (pid : Int) (config : Json)
    (parts : ConfigParts) (servers clients : List Json) : Daemon where
  pid := pid
  name := configName lib parts.name
  isServer := decide (0 < servers.length)
  isClient := decide (0 < clients.length)
  wsClients := parts.wsClients
  wsServers := parts.wsServers
  config := config
  apis := Json.null

def configOutcome (lib : Libs) (ignoredDaemon : Option String) (pid : Int)
    (reply : Reply) : Outcome :=
  if reply.rc < 0 then
    Outcome.configFailed reply.rc
  else
    match reply.response.getEx "response" with
    | none => Outcome.found { Daemon.zeroed with pid := pid }
    | some config =>
        match lib.unpackConfig config with
        | none => Outcome.skipped
        | some parts =>
            if isIgnored ignoredDaemon (configName lib parts.name) then
              Outcome.skipped
            else
              match parts.wsServers.items?, parts.wsClients.items? with
              | some servers, some clients =>
                  Outcome.found
                    (configuredDaemon lib pid config parts servers clients)
              | _, _ => Outcome.crashed Fault.notArray

def apisOutcome (d : Daemon) (reply : Reply) : Outcome :=
  if reply.rc < 0 then
    Outcome.skipped
  else
    match (reply.response.getEx "response").bind (Json.getEx "apis") with
    | none => Outcome.found d
    | some (Json.object members) =>
        Outcome.found { d with
          apis := Json.object
            (members.filter fun m => decide (m.1 ≠ "monitor")) }
    | some _ => Outcome.crashed Fault.notObject

/-- What comes of both calls; the second is made for a decoded config only. -/
def askedOutcome (lib : Libs) (ignoredDaemon : Option String) (pid : Int)
    (config apis : Reply) : Outcome :=
  match configOutcome lib ignoredDaemon pid config with
  | Outcome.found d => apisOutcome d apis
  | other => other

def askedEvents (lib : Libs) (ignoredDaemon : Option String) (pid : Int)
    (config apis : Reply) : List Event :=
  Event.service (Call.config pid) config ::
    match configOutcome lib ignoredDaemon pid config with
    | Outcome.found _ => [Event.service (Call.getApis pid) apis]
    | _ => []

/-- What is answered about a listed daemon, or would be if it was asked. -/
structure Answers where
  pid : Option Int
  allocated : Bool
  config : Reply
  apis : Reply

namespace Answers

variable (lib : Libs) (ignoredDaemon : Option String)

/-- What the callback makes of the daemon. -/
def outcome (answers : Answers) : Outcome :=
  match answers.pid with
  | none => Outcome.skipped
  | some pid =>
      if answers.allocated then
        askedOutcome lib ignoredDaemon pid answers.config answers.apis
      else
        Outcome.crashed Fault.nullDaemon

def events (answers : Answers) : List Event :=
  Event.alloc Allocation.callocDaemon answers.allocated ::
    match answers.pid with
    | none => []
    | some pid =>
        if answers.allocated then
          askedEvents lib ignoredDaemon pid answers.config answers.apis
        else
          []

def entry (answers : Answers) : Option Daemon :=
  (answers.outcome lib ignoredDaemon).daemon?

end Answers

/-- The answers about the daemon that `obj` stands for, after this log. -/
def answersAbout (lib : Libs) (env : Env) (log : List Event) (obj : Json) :
    Answers :=
  let pid := (lib.unpackCred obj).getD 0
  let allocated := env.alloc log Allocation.callocDaemon
  let log := log ++ [Event.alloc Allocation.callocDaemon allocated]
  let config := env.service log (Call.config pid)
  { pid := lib.unpackCred obj
    allocated := allocated
    config := config
    apis := env.service (log ++ [Event.service (Call.config pid) config])
      (Call.getApis pid) }

/-- The answers about all the listed daemons, one after the other. -/
def answersToAll (lib : Libs) (env : Env) (ignoredDaemon : Option String) :
    List Event -> List Json -> List Answers
  | _, [] => []
  | log, obj :: rest =>
      let answers := answersAbout lib env log obj
      answers :: answersToAll lib env ignoredDaemon
        (log ++ answers.events lib ignoredDaemon) rest

/-!
## The faults of the callback
-/

section Faults

variable {lib : Libs} {ignoredDaemon : Option String} {f : Fault}

theorem fault_of_configOutcome {pid : Int} {reply : Reply}
    (h : configOutcome lib ignoredDaemon pid reply = Outcome.crashed f) :
    f = Fault.notArray := by
  unfold configOutcome at h
  split at h
  · cases h
  split at h
  · cases h
  split at h
  · cases h
  split at h
  · cases h
  split at h
  · cases h
  · cases h
    rfl

theorem fault_of_apisOutcome {d : Daemon} {reply : Reply}
    (h : apisOutcome d reply = Outcome.crashed f) : f = Fault.notObject := by
  unfold apisOutcome at h
  split at h
  · cases h
  split at h
  · cases h
  · cases h
  · cases h
    rfl

theorem fault_of_outcome {answers : Answers}
    (h : answers.outcome lib ignoredDaemon = Outcome.crashed f) :
    f = Fault.nullDaemon ∨ f = Fault.notArray ∨ f = Fault.notObject := by
  unfold Answers.outcome at h
  split at h
  · cases h
  split at h
  · unfold askedOutcome at h
    split at h
    · exact Or.inr (Or.inr (fault_of_apisOutcome h))
    · exact Or.inr (Or.inl (fault_of_configOutcome h))
  · cases h
    exact Or.inl rfl

end Faults

/-!
## The fold
-/

def applyOutcome (sofar : Int × DaemonTable) :
    Outcome -> Except Fault (Int × DaemonTable)
  | Outcome.crashed f => .error f
  | Outcome.skipped => .ok sofar
  | Outcome.configFailed rc => .ok (rc, sofar.2)
  | Outcome.found d =>
      match sofar.2.push d with
      | some table => .ok (sofar.1, table)
      | none => .error Fault.tableOverrun

theorem applyOutcome_of_push {table table' : DaemonTable} {d : Daemon}
    (h : table.push d = some table') (rc : Int) :
    applyOutcome (rc, table) (Outcome.found d) = .ok (rc, table') := by
  simp only [applyOutcome, h]

theorem applyOutcome_of_full {table : DaemonTable} {d : Daemon}
    (h : table.push d = none) (rc : Int) :
    applyOutcome (rc, table) (Outcome.found d) = .error Fault.tableOverrun := by
  simp only [applyOutcome, h]

def applyAll (outcomes : List Outcome) (sofar : Int × DaemonTable) :
    Except Fault (Int × DaemonTable) :=
  outcomes.foldlM applyOutcome sofar

/-!
## What the fold comes to
-/

def beforeCrash (outcomes : List Outcome) : List Outcome :=
  outcomes.takeWhile fun o => !o.isCrash

def foundDaemons (outcomes : List Outcome) : List Daemon :=
  outcomes.filterMap Outcome.daemon?

theorem push_of_lt {table : DaemonTable} (h : table.count < maxDaemons)
    (d : Daemon) :
    exists table', table.push d = some table' ∧
      table'.daemons = table.daemons ++ [d] := by
  unfold DaemonTable.push
  rw [dif_pos h]
  exact ⟨_, rfl, rfl⟩

theorem push_of_not_lt {table : DaemonTable} (h : ¬ table.count < maxDaemons)
    (d : Daemon) : table.push d = none := by
  unfold DaemonTable.push
  rw [dif_neg h]

theorem count_of_push {table table' : DaemonTable} {d : Daemon}
    (h : table'.daemons = table.daemons ++ [d]) :
    table'.count = table.count + 1 := by
  rw [DaemonTable.count, h, List.length_append]
  rfl

theorem applyAll_cons_of_ok {o : Outcome} {sofar next : Int × DaemonTable}
    (h : applyOutcome sofar o = .ok next) (rest : List Outcome) :
    applyAll (o :: rest) sofar = applyAll rest next := by
  unfold applyAll
  rw [List.foldlM_cons, h]
  rfl

theorem applyAll_cons_of_error {o : Outcome} {sofar : Int × DaemonTable}
    {f : Fault} (h : applyOutcome sofar o = .error f) (rest : List Outcome) :
    applyAll (o :: rest) sofar = .error f := by
  unfold applyAll
  rw [List.foldlM_cons, h]
  rfl

theorem applyAll_found_cases (d : Daemon) (rest : List Outcome) (rc : Int)
    (table : DaemonTable) :
    (table.count < maxDaemons ∧ exists next,
      applyOutcome (rc, table) (Outcome.found d) = .ok (rc, next) ∧
        next.daemons = table.daemons ++ [d] ∧
        applyAll (Outcome.found d :: rest) (rc, table) =
          applyAll rest (rc, next)) ∨
      (maxDaemons ≤ table.count ∧
        applyAll (Outcome.found d :: rest) (rc, table) =
          .error Fault.tableOverrun) := by
  rcases Nat.lt_or_ge table.count maxDaemons with hlt | hge
  · rcases push_of_lt hlt d with ⟨next, hpush, hdaemons⟩
    have hnext := applyOutcome_of_push hpush rc
    exact Or.inl ⟨hlt, next, hnext, hdaemons, applyAll_cons_of_ok hnext rest⟩
  · have hpush := push_of_not_lt (Nat.not_lt.mpr hge) d
    exact Or.inr ⟨hge,
      applyAll_cons_of_error (applyOutcome_of_full hpush rc) rest⟩

/-- A fold that ends holds every daemon found, in order. -/
theorem applyAll_eq_ok {outcomes : List Outcome} {rc rc' : Int}
    {table table' : DaemonTable}
    (h : applyAll outcomes (rc, table) = .ok (rc', table')) :
    (forall o, o ∈ outcomes -> o.isCrash = false) ∧
      table'.daemons = table.daemons ++ foundDaemons outcomes := by
  induction outcomes generalizing rc table with
  | nil =>
      cases h
      refine ⟨?_, (List.append_nil _).symm⟩
      intro o ho
      cases ho
  | cons o rest ih =>
      have hcons : forall {next}, applyOutcome (rc, table) o = .ok next ->
          o.isCrash = false ->
          next.2.daemons = table.daemons ++ o.daemon?.toList ->
          (forall o', o' ∈ o :: rest -> o'.isCrash = false) ∧
            table'.daemons = table.daemons ++ foundDaemons (o :: rest) := by
        intro next hnext hcrash hdaemons
        rw [applyAll_cons_of_ok hnext] at h
        rcases ih h with ⟨hall, htable⟩
        constructor
        · intro o' ho'
          rcases List.mem_cons.mp ho' with rfl | ho'
          · exact hcrash
          · exact hall o' ho'
        · rw [htable, hdaemons, List.append_assoc]
          unfold foundDaemons
          rw [List.filterMap_cons]
          cases o.daemon? <;> rfl
      cases o with
      | crashed f =>
          rw [applyAll_cons_of_error rfl] at h
          cases h
      | skipped => exact hcons rfl rfl (List.append_nil _).symm
      | configFailed rc => exact hcons rfl rfl (List.append_nil _).symm
      | found d =>
          rcases applyAll_found_cases d rest rc table with
            ⟨_, next, hnext, hdaemons, _⟩ | ⟨_, hfull⟩
          · exact hcons hnext rfl hdaemons
          · rw [hfull] at h
            cases h

/-- Without a crash, and with slots for all that is found, the fold ends. -/
theorem applyAll_of_fits {outcomes : List Outcome} (rc : Int)
    (table : DaemonTable)
    (hcrash : forall o, o ∈ outcomes -> o.isCrash = false)
    (hfits : table.count + (foundDaemons outcomes).length ≤ maxDaemons) :
    exists rc' table',
      applyAll outcomes (rc, table) = .ok (rc', table') := by
  induction outcomes generalizing rc table with
  | nil => exact ⟨rc, table, rfl⟩
  | cons o rest ih =>
      have hrest := fun o' ho' => hcrash o' (List.mem_cons_of_mem o ho')
      cases o with
      | crashed f => cases hcrash _ List.mem_cons_self
      | skipped => exact ih rc table hrest hfits
      | configFailed n => exact ih n table hrest hfits
      | found d =>
          have hlength : (foundDaemons (Outcome.found d :: rest)).length =
              (foundDaemons rest).length + 1 := rfl
          rw [hlength] at hfits
          rcases applyAll_found_cases d rest rc table with
            ⟨_, next, _, hdaemons, hstored⟩ | ⟨hge, _⟩
          · rw [hstored]
            apply ih rc next hrest
            rw [count_of_push hdaemons]
            omega
          · omega

/-- A fold that breaks off met a crash or ran out of slots. -/
theorem applyAll_eq_error {outcomes : List Outcome} {rc : Int}
    {table : DaemonTable} {f : Fault}
    (h : applyAll outcomes (rc, table) = .error f) :
    f = Fault.tableOverrun ∨ Outcome.crashed f ∈ outcomes := by
  induction outcomes generalizing rc table with
  | nil => cases h
  | cons o rest ih =>
      have hlater : f = Fault.tableOverrun ∨ Outcome.crashed f ∈ rest ->
          f = Fault.tableOverrun ∨ Outcome.crashed f ∈ o :: rest :=
        Or.imp_right (List.mem_cons_of_mem o)
      cases o with
      | crashed f' =>
          rw [applyAll_cons_of_error rfl] at h
          cases h
          exact Or.inr List.mem_cons_self
      | skipped => exact hlater (ih h)
      | configFailed n => exact hlater (ih h)
      | found d =>
          rcases applyAll_found_cases d rest rc table with
            ⟨_, next, _, _, hstored⟩ | ⟨_, hfull⟩
          · rw [hstored] at h
            exact hlater (ih h)
          · rw [hfull] at h
            cases h
            exact Or.inl rfl

/-- The code is negative once a config call failed, and stays so. -/
theorem applyAll_rc {outcomes : List Outcome} {rc rc' : Int}
    {table table' : DaemonTable}
    (h : applyAll outcomes (rc, table) = .ok (rc', table'))
    (hneg : forall n, Outcome.configFailed n ∈ outcomes -> n < 0) :
    rc' < 0 <->
      rc < 0 ∨ exists o, o ∈ outcomes ∧ o.isConfigFailure = true := by
  induction outcomes generalizing rc table with
  | nil =>
      cases h
      simp
  | cons o rest ih =>
      have hrest := fun n hn => hneg n (List.mem_cons_of_mem o hn)
      cases o with
      | crashed f =>
          rw [applyAll_cons_of_error rfl] at h
          cases h
      | skipped =>
          rw [ih h hrest]
          simp [Outcome.isConfigFailure]
      | configFailed n =>
          have hn := hneg n List.mem_cons_self
          rw [ih h hrest]
          simp [Outcome.isConfigFailure, hn]
      | found d =>
          rcases applyAll_found_cases d rest rc table with
            ⟨_, next, _, _, hstored⟩ | ⟨_, hfull⟩
          · rw [hstored] at h
            rw [ih h hrest]
            simp [Outcome.isConfigFailure]
          · rw [hfull] at h
            cases h

/-- The table is overrun exactly where too much is found before a crash. -/
theorem applyAll_overrun_iff {outcomes : List Outcome} (rc : Int)
    (table : DaemonTable)
    (hfault : Outcome.crashed Fault.tableOverrun ∉ outcomes) :
    applyAll outcomes (rc, table) = .error Fault.tableOverrun <->
      maxDaemons <
        table.count + (foundDaemons (beforeCrash outcomes)).length := by
  have hle := table.count_le
  induction outcomes generalizing rc table with
  | nil =>
      constructor
      · intro h
        cases h
      · intro h
        exact absurd h (Nat.not_lt.mpr hle)
  | cons o rest ih =>
      have hrest : Outcome.crashed Fault.tableOverrun ∉ rest :=
        fun hin => hfault (List.mem_cons_of_mem o hin)
      cases o with
      | crashed f =>
          rw [applyAll_cons_of_error rfl]
          constructor
          · intro h
            cases h
            exact absurd List.mem_cons_self hfault
          · intro h
            exact absurd h (Nat.not_lt.mpr hle)
      | skipped => exact ih rc table hrest table.count_le
      | configFailed n => exact ih n table hrest table.count_le
      | found d =>
          have hlength :
              (foundDaemons (beforeCrash (Outcome.found d :: rest))).length =
                (foundDaemons (beforeCrash rest)).length + 1 := rfl
          rw [hlength]
          rcases applyAll_found_cases d rest rc table with
            ⟨_, next, _, hdaemons, hstored⟩ | ⟨hge, hfull⟩
          · rw [hstored]
            refine (ih rc next hrest next.count_le).trans ?_
            rw [count_of_push hdaemons]
            omega
          · rw [hfull]
            exact iff_of_true rfl (by omega)

/-!
## The answers of one collection
-/

/-- The answer to the discover call of a collection that starts after `log`. -/
def discoverReply (env : Env) (log : List Event) : Reply :=
  env.service
    (log ++ [Event.alloc Allocation.callocDaemons
      (env.alloc log Allocation.callocDaemons)]) Call.discover

def discoverLog (env : Env) (log : List Event) : List Event :=
  log ++ [Event.alloc Allocation.callocDaemons
    (env.alloc log Allocation.callocDaemons)] ++
    [Event.service Call.discover (discoverReply env log)]

def listReply (env : Env) (log : List Event) : Reply :=
  env.service (discoverLog env log) Call.list

def listLog (env : Env) (log : List Event) : List Event :=
  discoverLog env log ++ [Event.service Call.list (listReply env log)]

/-- The discover call and the list call succeed. -/
structure Discovers (env : Env) (log : List Event) : Prop where
  discover : 0 ≤ (discoverReply env log).rc
  list : 0 ≤ (listReply env log).rc

/-- The answers about the daemons that the supervisor lists. -/
def collectedAnswers (lib : Libs) (env : Env) (apiname : Option String)
    (log : List Event) : List Answers :=
  answersToAll lib env apiname (listLog env log)
    (listedDaemons lib (listReply env log).response)

def collectedOutcomes (lib : Libs) (env : Env) (apiname : Option String)
    (log : List Event) : List Outcome :=
  (collectedAnswers lib env apiname log).map (Answers.outcome lib apiname)

end Supervisor
end XdsService

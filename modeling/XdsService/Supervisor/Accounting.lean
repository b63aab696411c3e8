import XdsService.Supervisor.Owned

/-!
# Accounts of the record's blocks

What the log tells about the block behind `TracePidsArr`: how many cells it has,
and how many blocks were lost because the record was allocated over them.  Each
step of the handlers keeps to this account, and uses only blocks that are
allocated.
-/

namespace XdsService
namespace Supervisor

open Foundation
open Foundation.Blocks
open Foundation.Ghost
open Foundation.Logs
open Program

variable {lib : Libs} {env : Env} {apiname : Option String}
variable {w w1 w' : World} {s s' : World × Ownership} {o : Ownership}

/-!
## Programs apart from the record
-/

def Event.isRecord : Event -> Bool
  | alloc (Allocation.mallocPids _) _ => true
  | alloc (Allocation.reallocPids _) _ => true
  | _ => false

/-- The record is the same, and no allocation of it was logged. -/
structure Apart (w w' : World) : Prop where
  same : SameRecord w w'
  log : exists events, w'.log = w.log ++ events ∧
    forall e, e ∈ events -> e.isRecord = false

instance : Std.Refl Apart := ⟨fun _ => ⟨⟨rfl, rfl⟩, [], by simp, by simp⟩⟩

instance : IsTrans World Apart where
  trans := by
    intro a b c hab hbc
    rcases hab with ⟨hsame, events, hlog, hall⟩
    rcases hbc with ⟨hsame', events', hlog', hall'⟩
    refine ⟨IsTrans.trans _ _ _ hsame hsame', events ++ events', ?_, ?_⟩
    · rw [hlog', hlog, List.append_assoc]
    · intro e he
      rcases List.mem_append.mp he with he | he
      · exact hall e he
      · exact hall' e he

theorem apart_emit (w : World) {e : Event} (he : e.isRecord = false) :
    Apart w (w.emit e) :=
  ⟨⟨rfl, rfl⟩, [e], rfl, by simpa using he⟩

theorem apart_serviceSync (call : Call) :
    Moves Apart AnyExit (serviceSync env call) where
  along := fun w => apart_emit w rfl
  exits := fun _ => trivial

theorem apart_allocate {what : Allocation}
    (hwhat : forall allocated, (Event.alloc what allocated).isRecord = false) :
    Moves Apart AnyExit (allocate env what) where
  along := fun w => apart_emit w (hwhat _)
  exits := fun _ => trivial

theorem apart_reqFail (status info : String) :
    Moves Apart AnyExit (reqFail status info) where
  along := fun w => apart_emit w rfl
  exits := fun _ => trivial

theorem apart_reqSuccess (payload : Payload) (info : Option String) :
    Moves Apart AnyExit (reqSuccess payload info) where
  along := fun w => apart_emit w rfl
  exits := fun _ => trivial

theorem apart_arrayItems (j : Json) : Moves Apart AnyExit (arrayItems j) := by
  unfold arrayItems
  cases j.items? with
  | none => exact moves_throw trivial
  | some items => exact moves_pure items

theorem apart_decodeConfig (ignoredDaemon : Option String) (daemon : Daemon)
    (response : Json) :
    Moves Apart AnyExit (decodeConfig lib ignoredDaemon daemon response) := by
  unfold decodeConfig
  cases response.getEx "response" with
  | none => exact moves_pure _
  | some config =>
      cases hparts : lib.unpackConfig config with
      | none =>
          simp only [hparts]
          exact moves_pure none
      | some parts =>
          simp only [hparts]
          apply moves_ite (moves_pure none)
          apply moves_bind (apart_arrayItems parts.wsServers)
          intro servers
          apply moves_bind (apart_arrayItems parts.wsClients)
          intro clients
          exact moves_pure _

theorem apart_decodeApis (daemon : Daemon) (response : Json) :
    Moves Apart AnyExit (decodeApis daemon response) := by
  unfold decodeApis
  cases (response.getEx "response").bind (Json.getEx "apis") with
  | none => exact moves_pure daemon
  | some apis =>
      have hdelete : Moves Apart AnyExit (deleteMonitor apis) := by
        cases apis with
        | object members => exact moves_pure _
        | _ => exact moves_throw trivial
      exact moves_bind hdelete fun kept => moves_pure _

theorem apart_storeDaemon (closure : DecodeClosure) (table : DaemonTable)
    (daemon : Daemon) :
    Moves Apart AnyExit (storeDaemon closure table daemon) := by
  unfold storeDaemon
  cases table.push daemon with
  | none => exact moves_throw trivial
  | some table => exact moves_pure _

theorem apart_fetchDaemon (ignoredDaemon : Option String)
    (closure : DecodeClosure) (table : DaemonTable) (pid : Int) :
    Moves Apart AnyExit
      (fetchDaemon lib env ignoredDaemon closure table pid) := by
  apply moves_bind (apart_serviceSync (Call.config pid))
  intro reply
  apply moves_ite (moves_pure _)
  apply moves_bind (apart_decodeConfig ignoredDaemon _ reply.response)
  intro decoded
  cases decoded with
  | none => exact moves_pure closure
  | some daemon =>
      apply moves_bind (apart_serviceSync (Call.getApis pid))
      intro reply
      apply moves_ite (moves_pure closure)
      apply moves_bind (apart_decodeApis daemon reply.response)
      intro stored
      exact apart_storeDaemon closure table stored

theorem apart_decodeDaemonsCb (ignoredDaemon : Option String)
    (closure : DecodeClosure) (obj : Json) :
    Moves Apart AnyExit
      (decodeDaemonsCb lib env ignoredDaemon closure obj) := by
  unfold decodeDaemonsCb
  apply moves_bind (apart_allocate fun _ => rfl)
  intro allocated
  cases closure.daemons with
  | none => exact moves_pure closure
  | some table =>
      cases lib.unpackCred obj with
      | none => exact moves_pure closure
      | some pid =>
          exact moves_ite (apart_fetchDaemon ignoredDaemon _ table pid)
            (moves_throw trivial)

theorem apart_getDaemons :
    Moves Apart AnyExit (getDaemons lib env apiname) := by
  apply moves_bind (apart_allocate fun _ => rfl)
  intro allocated
  apply moves_bind (apart_serviceSync Call.discover)
  intro reply
  apply moves_ite (moves_pure _)
  apply moves_bind (apart_serviceSync Call.list)
  intro reply
  apply moves_ite (moves_pure _)
  apply moves_bind
  · exact moves_foldlM (apart_decodeDaemonsCb apiname) _ _
  · intro closure
    exact moves_pure _

theorem apart_traceDrop (pid : Int) :
    Moves Apart AnyExit (traceDrop env pid) :=
  moves_bind (apart_serviceSync _) fun _ => moves_pure _

theorem apart_traceDaemonMacro (dd : Daemon) (level : Option String)
    (l : Locals) : Moves Apart AnyExit (traceDaemonMacro env dd level l) := by
  have htrace : Moves Apart AnyExit (traceDaemon env (some dd) level) := by
    apply moves_bind (apart_traceDrop dd.pid)
    · intro _
      exact moves_bind (apart_serviceSync _) fun reply =>
        moves_ite (moves_pure _) (moves_pure _)
  apply moves_bind htrace
  intro rc
  apply moves_ite
  · exact moves_bind (apart_reqFail _ _) fun _ => moves_throw trivial
  · exact moves_pure _

theorem apart_list : Moves Apart AnyExit (list lib env apiname) := by
  apply moves_bind apart_getDaemons
  intro found
  cases found.2 with
  | none => exact moves_bind (apart_reqFail _ _) fun _ => moves_pure _
  | some table => exact moves_bind (apart_reqSuccess _ _) fun _ => moves_pure _

theorem apart_outOfMemory : Moves Apart AnyExit outOfMemory :=
  moves_bind (apart_reqFail _ _) fun _ => moves_throw trivial

/-!
## Accounts
-/

/-- The cells of the block that `TracePidsArr` points to, and the lost blocks. -/
structure Account where
  block : Option Nat
  lost : Nat

namespace Account

/-- An allocation over a block that is held loses it. -/
def after (acc : Account) : Event -> Account
  | Event.alloc (Allocation.mallocPids n) allocated =>
      ⟨if allocated then some n else none,
        acc.lost + if acc.block.isSome then 1 else 0⟩
  | Event.alloc (Allocation.reallocPids n) allocated =>
      ⟨if allocated then some n else acc.block, acc.lost⟩
  | _ => acc

def afterAll (acc : Account) (events : List Event) : Account :=
  events.foldl after acc

variable {acc : Account} {events : List Event}

theorem afterAll_append (more : List Event) :
    acc.afterAll (events ++ more) = (acc.afterAll events).afterAll more :=
  List.foldl_append

theorem afterAll_of_not_isRecord
    (h : forall e, e ∈ events -> e.isRecord = false) :
    acc.afterAll events = acc := by
  induction events with
  | nil => rfl
  | cons e rest ih =>
      have hafter : acc.after e = acc := by
        have he := h e (by simp)
        cases e with
        | alloc what allocated => cases what <;> first | rfl | cases he
        | _ => rfl
      show (acc.after e).afterAll rest = acc
      rw [hafter]
      exact ih fun other hmem => h other (by simp [hmem])

/-- The blocks lost before do not matter for those that are lost later. -/
theorem afterAll_add (block : Option Nat) (lost : Nat) :
    (Account.mk block lost).afterAll events =
      ⟨((Account.mk block 0).afterAll events).block,
        lost + ((Account.mk block 0).afterAll events).lost⟩ := by
  induction events using List.reverseRecOn with
  | nil => rfl
  | append_singleton events e ih =>
      rw [afterAll_append, afterAll_append, ih]
      cases e with
      | alloc what allocated =>
          cases what with
          | mallocPids n =>
              show Account.mk _ _ = Account.mk _ _
              rw [Nat.add_assoc]
              rfl
          | _ => rfl
      | _ => rfl

end Account

/-- The blocks that are allocated although nothing points to them. -/
def lostBlocks (o : Ownership) : Finset Nat :=
  match o.pids with
  | none => allocated o.ops
  | some block => (allocated o.ops).erase block

def account (s : World × Ownership) : Account where
  block := s.1.tracePidsArr.map List.length
  lost := (lostBlocks s.2).card

/-- The blocks were used in order, and `TracePidsArr` points to one if not NULL. -/
structure Owns (s : World × Ownership) : Prop where
  ordered : Obeys InOrder s.2.ops
  pointer : s.2.pids.isSome = s.1.tracePidsArr.isSome
  live : forall block, s.2.pids = some block -> block ∈ allocated s.2.ops

/--
Between the changes of the counter: a block of no cells is there only if none
are counted, and only if the request has given an array of pids.
-/
structure Tidy (array : Prop) (s : World × Ownership) : Prop where
  owns : Owns s
  empty : (account s).block = some 0 -> s.1.tracePidsNum = 0 ∧ array
  counted : s.1.tracePidsNum = 0 ->
    (account s).block = none ∨ (account s).block = some 0

/-- What was logged accounts for the blocks. -/
def Accounts (array : Prop) (s s' : World × Ownership) : Prop :=
  exists events, s'.1.log = s.1.log ++ events ∧
    (Tidy array s -> Tidy array s' ∧
      account s' = (account s).afterAll events)

variable {array : Prop}

instance : Std.Refl (Accounts array) :=
  ⟨fun _ => ⟨[], by simp, fun h => ⟨h, rfl⟩⟩⟩

instance : IsTrans (World × Ownership) (Accounts array) where
  trans := by
    intro a b c hab hbc
    rcases hab with ⟨events, hlog, htidy⟩
    rcases hbc with ⟨events', hlog', htidy'⟩
    refine ⟨events ++ events', ?_, ?_⟩
    · rw [hlog', hlog, List.append_assoc]
    · intro h
      rcases htidy h with ⟨hb, haccount⟩
      rcases htidy' hb with ⟨hc, haccount'⟩
      refine ⟨hc, ?_⟩
      rw [haccount', haccount, Account.afterAll_append]

/-!
## One step of the record
-/

theorem Tidy.of_world (h : Tidy array s) {w : World}
    (hnum : w.tracePidsNum = s.1.tracePidsNum)
    (harr : w.tracePidsArr.map List.length =
      s.1.tracePidsArr.map List.length) : Tidy array (w, s.2) := by
  have hsome : w.tracePidsArr.isSome = s.1.tracePidsArr.isSome := by
    have hboth := congrArg Option.isSome harr
    rw [Option.isSome_map, Option.isSome_map] at hboth
    exact hboth
  have hblock : (account (w, s.2)).block = (account s).block := harr
  constructor
  · exact ⟨h.owns.ordered, h.owns.pointer.trans hsome.symm, h.owns.live⟩
  · intro hempty
    rw [hblock] at hempty
    show w.tracePidsNum = 0 ∧ array
    rw [hnum]
    exact h.empty hempty
  · intro hzero
    rw [hblock]
    exact h.counted (hnum.symm.trans hzero)

theorem accounts_of_apart (h : Apart s.1 w) : Accounts array s (w, s.2) := by
  rcases h.log with ⟨events, hlog, hall⟩
  have harr : w.tracePidsArr.map List.length =
      s.1.tracePidsArr.map List.length := by
    rw [h.same.arr]
  refine ⟨events, hlog, ?_⟩
  intro htidy
  refine ⟨htidy.of_world h.same.num harr, ?_⟩
  rw [Account.afterAll_of_not_isRecord hall]
  show Account.mk _ _ = Account.mk _ _
  rw [harr]

theorem accounts_lift {α : Type} {m : Handler α} (h : Moves Apart AnyExit m) :
    Moves (Accounts array) AnyExit (lift m : OwnedHandler α) := by
  apply moves_lift
  · intro s
    exact accounts_of_apart (h.along s.1)
  · exact fun _ => trivial

theorem lostBlocks_use (o : Ownership) : lostBlocks o.use = lostBlocks o := by
  rcases o with ⟨ops, pids⟩
  cases pids with
  | none => rfl
  | some block =>
      show (allocated (ops ++ [BlockOp.use block])).erase block = _
      rw [allocated_use]
      rfl

theorem Owns.use (h : Owns s) : Owns (s.1, s.2.use) := by
  rcases s with ⟨w, ops, pids⟩
  cases pids with
  | none => exact h
  | some block =>
      have hmem := h.live block rfl
      constructor
      · exact obeys_use h.ordered hmem
      · exact h.pointer
      · intro other hother
        show other ∈ allocated (ops ++ [BlockOp.use block])
        rw [allocated_use]
        exact h.live other hother

theorem accounts_use (s : World × Ownership) :
    Accounts array s (s.1, s.2.use) := by
  refine ⟨[], by simp, ?_⟩
  intro htidy
  have hblock : (account (s.1, s.2.use)).block = (account s).block := rfl
  constructor
  · exact ⟨htidy.owns.use, htidy.empty, htidy.counted⟩
  · show Account.mk _ (lostBlocks s.2.use).card = _
    rw [lostBlocks_use]
    rfl

theorem apart_readPid (k : Nat) : Moves Apart AnyExit (readPid k) where
  along := by
    intro w
    have hrun : (readPid k).run w = readPid k w := rfl
    rw [hrun, readPid]
    split
    · exact Std.Refl.refl w
    · exact Std.Refl.refl w
  exits := fun _ => trivial

theorem accounts_readPid (k : Nat) :
    Moves (Accounts array) AnyExit (Owned.readPid k) :=
  moves_bind (moves_ghost accounts_use) fun _ => accounts_lift (apart_readPid k)

theorem map_length_set {k : Nat} (hk : k < w.cells.length) (pid : Int) :
    (some (w.cells.set k (some pid))).map List.length =
      w.tracePidsArr.map List.length := by
  cases hcells : w.tracePidsArr with
  | none =>
      rw [World.cells, hcells] at hk
      cases hk
  | some cells => simp [World.cells, hcells]

theorem accounts_writePid (k : Nat) (pid : Int) :
    Moves (Accounts array) AnyExit (Owned.writePid k pid) := by
  apply moves_bind (moves_ghost accounts_use)
  intro _
  apply moves_lift
  · intro s
    have hrun : (writePid k pid).run s.1 = writePid k pid s.1 := rfl
    rw [hrun, writePid]
    split
    · rename_i hk
      refine ⟨[], by simp, ?_⟩
      intro htidy
      have harr := map_length_set hk pid
      refine ⟨htidy.of_world rfl harr, ?_⟩
      show Account.mk _ _ = Account.mk _ _
      rw [← harr]
      rfl
    · exact Std.Refl.refl s
  · exact fun _ => trivial

/-!
## Allocations of the record
-/

theorem lostBlocks_malloc (h : Obeys InOrder o.ops) (granted : Bool) :
    lostBlocks (o.malloc granted) = allocated o.ops := by
  cases granted with
  | true =>
      show (allocated (o.ops ++ [BlockOp.grant o.ops.length])).erase
        o.ops.length = _
      rw [allocated_grant]
      exact Finset.erase_insert (fresh_notMem h)
  | false => rfl

theorem card_allocated (h : Owns s) :
    (allocated s.2.ops).card =
      (account s).lost + if (account s).block.isSome then 1 else 0 := by
  have hsome : (account s).block.isSome = s.2.pids.isSome := by
    rw [h.pointer]
    exact Option.isSome_map
  rw [hsome]
  show _ = (lostBlocks s.2).card + _
  unfold lostBlocks
  cases hpids : s.2.pids with
  | none => rfl
  | some block => exact (Finset.card_erase_add_one (h.live block hpids)).symm

theorem owns_malloc (h : Obeys InOrder o.ops) {granted : Bool}
    (hw : w.tracePidsArr.isSome = granted) : Owns (w, o.malloc granted) := by
  cases granted with
  | true =>
      constructor
      · exact obeys_grant h
      · exact hw.symm
      · intro block hblock
        cases hblock
        show _ ∈ allocated (o.ops ++ [BlockOp.grant o.ops.length])
        rw [allocated_grant]
        exact Finset.mem_insert_self _ _
  | false =>
      constructor
      · exact h
      · exact hw.symm
      · intro block hblock
        cases hblock

theorem Owns.free (h : Owns s) :
    Obeys InOrder s.2.free.ops ∧ allocated s.2.free.ops = lostBlocks s.2 := by
  rcases s with ⟨w, ops, pids⟩
  cases pids with
  | none => exact ⟨h.ordered, rfl⟩
  | some block =>
      constructor
      · exact obeys_free h.ordered (h.live block rfl)
      · exact allocated_free

/-- The counter is set and the record is allocated over whatever was there. -/
theorem accounts_malloc {n : Nat} (hn : n = 0 -> array) :
    Moves (Accounts array) AnyExit (do
      lift (setTracePidsNum n)
      Owned.mallocTracePids env n : OwnedHandler Bool) where
  along := by
    intro s
    generalize hgranted : env.alloc s.1.log (Allocation.mallocPids n) = granted
    have hrun : finalState ((do
        lift (setTracePidsNum n)
        Owned.mallocTracePids env n : OwnedHandler Bool).run s) =
          (⟨n, if granted then some (List.replicate n none) else none,
            s.1.log ++ [Event.alloc (Allocation.mallocPids n) granted]⟩,
          s.2.malloc granted) := by
      rw [← hgranted]
      rfl
    rw [hrun]
    refine ⟨_, rfl, ?_⟩
    intro htidy
    have hordered := htidy.owns.ordered
    have hlost : (lostBlocks (s.2.malloc granted)).card =
        (account s).lost + if (account s).block.isSome then 1 else 0 := by
      rw [lostBlocks_malloc hordered]
      exact card_allocated htidy.owns
    cases granted with
    | true =>
        have hblock : (some (List.replicate n (none : Option Int))).map
            List.length = some n := by simp
        constructor
        · refine ⟨owns_malloc hordered rfl, ?_, ?_⟩
          · intro hempty
            have hzero : n = 0 := Option.some.inj (hblock.symm.trans hempty)
            exact ⟨hzero, hn hzero⟩
          · intro hzero
            exact Or.inr (hblock.trans (congrArg some hzero))
        · show Account.mk _ _ = Account.mk _ _
          rw [hlost]
          exact congrArg (Account.mk · _) hblock
    | false =>
        constructor
        · refine ⟨owns_malloc hordered rfl, ?_, fun _ => Or.inl rfl⟩
          intro hempty
          cases hempty
        · show Account.mk _ _ = Account.mk _ _
          rw [hlost]
          rfl
  exits := fun _ => trivial

/-- The counter is raised and the block of the record grows. -/
theorem accounts_realloc (harray : ¬ array) (n : Nat) :
    Moves (Accounts array) AnyExit (do
      lift (setTracePidsNum (n + 1))
      Owned.reallocTracePids env (n + 1) : OwnedHandler Bool) where
  along := by
    intro s
    generalize hgranted :
      env.alloc s.1.log (Allocation.reallocPids (n + 1)) = granted
    have hrun : finalState ((do
        lift (setTracePidsNum (n + 1))
        Owned.reallocTracePids env (n + 1) : OwnedHandler Bool).run s) =
          (⟨n + 1, if granted then
              some (s.1.cells.take (n + 1) ++
                List.replicate (n + 1 - s.1.cells.length) none)
            else
              s.1.tracePidsArr,
            s.1.log ++ [Event.alloc (Allocation.reallocPids (n + 1)) granted]⟩,
          s.2.realloc granted) := by
      rw [← hgranted]
      rfl
    rw [hrun]
    refine ⟨_, rfl, ?_⟩
    intro htidy
    cases granted with
    | true =>
        rcases htidy.owns.free with ⟨hordered, hlost⟩
        have hblock : (some (s.1.cells.take (n + 1) ++ List.replicate
            (n + 1 - s.1.cells.length) none)).map List.length =
              some (n + 1) := by
          simp only [Option.map_some, List.length_append, List.length_take,
            List.length_replicate, Option.some.injEq]
          omega
        constructor
        · refine ⟨owns_malloc hordered rfl, ?_, ?_⟩
          · intro hempty
            cases hblock.symm.trans hempty
          · intro hzero
            cases hzero
        · show Account.mk _ (lostBlocks (s.2.free.malloc true)).card =
            Account.mk _ _
          rw [lostBlocks_malloc hordered, hlost]
          exact congrArg (Account.mk · _) hblock
    | false =>
        constructor
        · have howns := htidy.owns
          refine ⟨⟨howns.ordered, howns.pointer, howns.live⟩, ?_, ?_⟩
          · intro hempty
            exact absurd (htidy.empty hempty).right harray
          · intro hzero
            cases hzero
        · rfl
  exits := fun _ => trivial

end Supervisor
end XdsService

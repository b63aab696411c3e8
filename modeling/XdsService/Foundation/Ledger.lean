import Mathlib.Data.Finset.Insert
import Mathlib.Data.Finset.Erase

/-!
# Sets kept by a log of entries

A remote party that holds a set and accepts additions and removals is known
only through the entries it accepted.  `replay` computes the set from the
log, and `mem_replay_iff` reads membership off the log: the last entry
about the element is an addition.
-/

namespace XdsService
namespace Foundation
namespace Ledger

inductive Entry (alpha : Type) where
  | add (a : alpha)
  | remove (a : alpha)

variable {alpha : Type} [DecidableEq alpha]

def Entry.apply (held : Finset alpha) : Entry alpha -> Finset alpha
  | add a => insert a held
  | remove a => held.erase a

def replay (log : List (Entry alpha)) : Finset alpha :=
  log.foldl Entry.apply ∅

@[simp] theorem replay_nil : replay ([] : List (Entry alpha)) = ∅ := rfl

theorem replay_append_singleton (log : List (Entry alpha))
    (entry : Entry alpha) :
    replay (log ++ [entry]) = entry.apply (replay log) := by
  simp [replay]

theorem mem_replay_iff {log : List (Entry alpha)} {a : alpha} :
    a ∈ replay log <->
      exists earlier later, log = earlier ++ Entry.add a :: later ∧
        Entry.remove a ∉ later := by
  induction log using List.reverseRecOn with
  | nil => simp
  | append_singleton log entry ih =>
      rw [replay_append_singleton]
      constructor
      · intro hmem
        cases entry with
        | add b =>
            by_cases hab : a = b
            · subst hab
              exact ⟨log, [], rfl, by simp⟩
            · have hold : a ∈ replay log := by
                simpa [Entry.apply, hab] using hmem
              rcases ih.mp hold with ⟨earlier, later, rfl, hlater⟩
              exact ⟨earlier, later ++ [Entry.add b], by simp,
                by simpa using hlater⟩
        | remove b =>
            have hboth : a ≠ b ∧ a ∈ replay log := by
              simpa [Entry.apply] using hmem
            rcases ih.mp hboth.right with ⟨earlier, later, rfl, hlater⟩
            exact ⟨earlier, later ++ [Entry.remove b], by simp,
              by simpa [hlater] using hboth.left⟩
      · intro h
        rcases h with ⟨earlier, later, hlog, hlater⟩
        rcases List.eq_nil_or_concat later with rfl | ⟨front, last, rfl⟩
        · have hentry : entry = Entry.add a := by
            simpa using (List.append_inj' hlog rfl).right
          simp [hentry, Entry.apply]
        · have hcut : log ++ [entry] =
              (earlier ++ Entry.add a :: front) ++ [last] := by
            simpa using hlog
          have hpair := List.append_inj' hcut rfl
          have hlast : entry = last := by simpa using hpair.right
          have hfront : Entry.remove a ∉ front ∧ Entry.remove a ≠ last := by
            simpa using hlater
          have hold : a ∈ replay log :=
            ih.mpr ⟨earlier, front, hpair.left, hfront.left⟩
          cases entry with
          | add b => simp [Entry.apply, hold]
          | remove b =>
              have hab : a ≠ b := by
                intro h
                exact hfront.right (by rw [← hlast, h])
              simp [Entry.apply, hab, hold]

/-!
## Additions since the last removal
-/

/-- The additions of the element after an entry, given those before it. -/
def Entry.count (a : alpha) (n : Nat) : Entry alpha -> Nat
  | add b => if b = a then n + 1 else n
  | remove b => if b = a then 0 else n

/-- How often the element was added since it was removed last. -/
def tally (a : alpha) (log : List (Entry alpha)) : Nat :=
  log.foldl (Entry.count a) 0

theorem tally_append_singleton (a : alpha) (log : List (Entry alpha))
    (entry : Entry alpha) :
    tally a (log ++ [entry]) = entry.count a (tally a log) := by
  simp [tally]

theorem tally_pos_iff {a : alpha} {log : List (Entry alpha)} :
    0 < tally a log <-> a ∈ replay log := by
  induction log using List.reverseRecOn with
  | nil => simp [tally]
  | append_singleton log entry ih =>
      rw [tally_append_singleton, replay_append_singleton]
      cases entry with
      | add b =>
          by_cases hab : b = a
          · simp [Entry.count, Entry.apply, hab]
          · simp [Entry.count, Entry.apply, hab, ih, Ne.symm hab]
      | remove b =>
          by_cases hab : b = a
          · simp [Entry.count, Entry.apply, hab]
          · simp [Entry.count, Entry.apply, hab, ih, Ne.symm hab]

end Ledger
end Foundation
end XdsService

import Flattening.Chunk.Basic

/-!
# Upgrading a level and a chunk file's root

The level of a chunk is replaced by its flattened form if some section still has legacy
blocks.  Otherwise, and after an error, nothing changes.

* `upgradeChunk_of_no_level`   without a level there is nothing to do;
* `Upgrading`                  a root that is upgraded in place, once or again and again.
-/

namespace Flattening

inductive UpgradeError where
  | malformed (m : Malformed)
  | fault (f : Fault)
  deriving DecidableEq

/-- the flattened form of a level -/
def upgradeLevel (level : Tag) : Attempt UpgradeError Tag := fun log =>
  match Chunk.ofLevel level log with
  | .error m log => .error (.malformed m) log
  | .ok c log =>
    match c.write with
    | .ok t => .ok t log
    | .error f => .error (.fault f) log

/-- Sections that are no list count as legacy, so that the upgrade refuses them. -/
def hasLegacyBlocks (level : Tag) : Bool :=
  match level.get? "Sections" with
  | none => false
  | some (.list l) => l.any fun s => (s.get? "Blocks").isSome
  | some _ => true

/-- the new root; `none` when there was nothing to do -/
def upgradeChunk (root : Tag) : Attempt UpgradeError (Option Tag) := do
  match root.get? "Level" with
  | none => return none
  | some level =>
    if hasLegacyBlocks level then
      let upgraded ← upgradeLevel level
      return some (root.insert "Level" upgraded)
    else return none

theorem upgradeChunk_of_no_level {root : Tag} (h : root.get? "Level" = none)
    (log : Array Event) : upgradeChunk root log = .ok none log := by
  unfold upgradeChunk
  rw [h]
  rfl

/-! ## in place -/

/-- a root that is upgraded in place, and the events so far -/
structure Upgrading where
  root : Tag
  events : Array Event

namespace Upgrading

/-- One call: whether something was done, or the error; and what is there afterwards. -/
def call (u : Upgrading) : Except UpgradeError Bool × Upgrading :=
  match upgradeChunk u.root u.events with
  | .ok (some root) events => (.ok true, ⟨root, events⟩)
  | .ok none events => (.ok false, ⟨u.root, events⟩)
  | .error e events => (.error e, ⟨u.root, events⟩)

/-- what is there after `n` calls -/
def after (u : Upgrading) : Nat → Upgrading
  | 0 => u
  | n + 1 => (u.after n).call.2

/-- the answer of the call that follows `n` others -/
def answer (u : Upgrading) (n : Nat) : Except UpgradeError Bool := (u.after n).call.1

theorem after_succ (u : Upgrading) (n : Nat) : u.after (n + 1) = (u.after n).call.2 := rfl

end Upgrading

end Flattening

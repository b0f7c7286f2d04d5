import Descent.Grammar.Run

/-!
# Stores

A store holds the cells that grammars refer to. A cell is bound at most once.
It lives as long as something owns it: a handle, a definition, or the target
of a cell that lives itself. What has been dropped stays dropped.
-/
namespace Descent

structure Cell (V C : Type) where
  target : Option (Grammar V C) := none
  alive : Bool := true

structure Store (V C : Type) where
  cells : List (Cell V C) := []

variable {V C : Type}

mutual

/-- The cells that a grammar owns. -/
def Grammar.owned : Grammar V C → List Nat
  | .primitive .. | .script _ => []
  | .all subs _ | .any subs _ | .best subs _ => Grammar.ownedByAll subs
  | .optional sub _ | .repeated sub _ _ _ => sub.owned
  | .reference cell owning => if owning then [cell] else []

def Grammar.ownedByAll : List (Grammar V C) → List Nat
  | [] => []
  | g :: gs => g.owned ++ Grammar.ownedByAll gs

end

namespace Cell

/-- The cells that a live cell owns through its target. -/
def owned (c : Cell V C) : List Nat :=
  if c.alive then (c.target.map Grammar.owned).getD [] else []

def view (c : Cell V C) : Target V C :=
  if c.alive then
    match c.target with
    | some g => .bound g
    | none => .unbound
  else .dropped

end Cell

namespace Store

def env (s : Store V C) : Env V C := fun i => ((s.cells[i]?).map Cell.view).getD .dropped

/-- A new cell at the end. -/
def create (s : Store V C) : Nat × Store V C := (s.cells.length, ⟨s.cells ++ [({} : Cell V C)]⟩)

def isBound (cell : Nat) (s : Store V C) : Bool :=
  (((s.cells[cell]?).map fun c => c.target.isSome)).getD false

def bind (cell : Nat) (g : Grammar V C) (s : Store V C) : Except ConfigError (Store V C) :=
  if s.isBound cell then .error .forwardAlreadyBound
  else .ok ⟨s.cells.modify cell fun c => { c with target := some g }⟩

/-- One round of dropping the cells that nothing owns. -/
def sweepOnce (roots : List Nat) (s : Store V C) : Store V C :=
  let owned := roots ++ s.cells.flatMap Cell.owned
  ⟨s.cells.mapIdx fun i c => { c with alive := c.alive && owned.contains i }⟩

def sweepTimes (roots : List Nat) : Nat → Store V C → Store V C
  | 0, s => s
  | n + 1, s => sweepTimes roots n (s.sweepOnce roots)

/-- Drops what nothing owns. Each round but the last drops a cell, so there are rounds enough. -/
def sweep (roots : List Nat) (s : Store V C) : Store V C := s.sweepTimes roots s.cells.length

end Store

end Descent

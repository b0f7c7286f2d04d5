import Descent.Grammar.Blueprint
import Descent.Grammar.Store

/-!
# Workbench

A workbench is a session together with what can be done around it: named
definitions and handles, and copies of the session to go back to.
-/
namespace Descent

structure Workbench (V C : Type) where
  session : Session V
  context : C
  trace : Array Event := #[]
  saved : List (Session V) := []
  store : Store V C := {}
  handles : List (String × Handle) := []
  definitions : List (String × Grammar V C) := []
  /-- Cells that are kept alive to the end. -/
  pinned : List Nat := []
  /-- Compiles the patterns of the grammars. -/
  engine : Engine := .standard

inductive Command (V C : Type) where
  | perform (script : Script V C)
  | define (name : String) (b : Blueprint V C)
  | run (name : String)
  | save
  | restore
  | create (name : String)
  | clone (name copy : String)
  | weaken (name copy : String)
  | bind (name : String) (b : Blueprint V C)
  | isBound (name : String)
  | drop (name : String)

inductive Answer where
  | nothing
  | refused (e : BlueprintError)
  | bound (isBound : Bool)
  deriving DecidableEq, Repr

namespace Workbench

variable {V C : Type}

/-- Gives a name to a value, in place of an earlier one. -/
def put {α : Type} (name : String) (a : α) (entries : List (String × α)) : List (String × α) :=
  (name, a) :: entries.filter fun e => e.1 != name

def remove {α : Type} (name : String) (entries : List (String × α)) : List (String × α) :=
  entries.filter fun e => e.1 != name

def handle? (w : Workbench V C) (name : String) : Option Handle := w.handles.lookup name

/-- The grammar that a blueprint describes, with the handles that have names now. -/
def build (b : Blueprint V C) (w : Workbench V C) : Except BlueprintError (Grammar V C) :=
  b.build w.handle? w.engine

/-- The cells that are owned from outside the store. -/
def roots (w : Workbench V C) : List Nat :=
  w.pinned ++ w.handles.filterMap (fun e => if e.2.owning then some e.2.cell else none) ++
    w.definitions.flatMap fun e => e.2.owned

def sweep (w : Workbench V C) : Workbench V C := { w with store := w.store.sweep w.roots }

def setHandle (name : String) (h : Handle) (w : Workbench V C) : Workbench V C :=
  { w with handles := put name h w.handles }.sweep

/-- Runs a grammar in the workbench's session. -/
def parse (fuel : Nat) (g : Grammar V C) (w : Workbench V C) : Option (Workbench V C) := do
  let r ← g.parse w.store.env fuel ⟨w.session, w.context, w.trace⟩
  return { w with session := r.session, context := r.context, trace := r.trace }

/-- The parser with a name: a definition, or else what a handle reaches. -/
def parser? (w : Workbench V C) (name : String) : Option (Grammar V C) :=
  w.definitions.lookup name <|> (w.handle? name).map fun h => .reference h.cell h.owning

/-- Binds the cell of an owning handle. -/
def bind (name : String) (b : Blueprint V C) (w : Workbench V C) :
    Except BlueprintError (Workbench V C) := do
  let g ← w.build b
  match w.handle? name with
  | some h =>
    if h.owning then
      match w.store.bind h.cell g with
      | .ok store => return { w with store }.sweep
      | .error e => throw (.config e)
    else throw (.unknownName name)
  | none => throw (.unknownName name)

def define (name : String) (b : Blueprint V C) (w : Workbench V C) :
    Except BlueprintError (Workbench V C) := do
  let g ← w.build b
  return { w with definitions := put name g w.definitions }.sweep

/-- The outcome of a change that may be refused, which then changes nothing. -/
def settle (w : Workbench V C) (changed : Except BlueprintError (Workbench V C)) :
    Workbench V C × Answer :=
  match changed with
  | .ok w => (w, .nothing)
  | .error e => (w, .refused e)

def step (fuel : Nat) (w : Workbench V C) : Command V C → Option (Workbench V C × Answer)
  | .perform script =>
    let (session, context) := script.run w.session w.context
    some ({ w with session, context }, .nothing)
  | .define name b => some (w.settle (w.define name b))
  | .run name =>
    match w.parser? name with
    | some g => (w.parse fuel g).map (·, .nothing)
    | none => some (w, .refused (.unknownName name))
  | .save => some ({ w with saved := w.session :: w.saved }, .nothing)
  | .restore =>
    match w.saved with
    | session :: saved => some ({ w with session, saved }, .nothing)
    | [] => some (w, .nothing)
  | .create name =>
    let (cell, store) := w.store.create
    some ({ w with store }.setHandle name ⟨cell, true⟩, .nothing)
  | .clone name copy =>
    match w.handle? name with
    | some h => some (w.setHandle copy h, .nothing)
    | none => some (w, .refused (.unknownName name))
  | .weaken name copy =>
    match w.handle? name with
    | some h => some (w.setHandle copy { h with owning := false }, .nothing)
    | none => some (w, .refused (.unknownName name))
  | .bind name b => some (w.settle (w.bind name b))
  | .isBound name =>
    match w.handle? name with
    | some h => some (w, .bound (w.store.isBound h.cell))
    | none => some (w, .refused (.unknownName name))
  | .drop name =>
    some ({ w with handles := remove name w.handles,
                   definitions := remove name w.definitions }.sweep, .nothing)

/-- Creates a cell for every rule, then binds them in the order of their names. Inside of rules a
name does not own its cell. -/
def addRules (rules : List (String × Blueprint V C)) (w : Workbench V C) :
    Except BlueprintError (Workbench V C) := do
  let rules := rules.mergeSort fun a b => a.1 ≤ b.1
  let cells := rules.mapIdx fun i r => (r.1, w.store.cells.length + i)
  let weak (name : String) := (cells.lookup name).map fun cell => (⟨cell, false⟩ : Handle)
  let store : Store V C := ⟨w.store.cells ++ rules.map fun _ => ({} : Cell V C)⟩
  let store ← rules.foldlM (fun (store : Store V C) r => do
    let g ← r.2.build weak w.engine
    match store.bind ((cells.lookup r.1).getD 0) g with
    | .ok store => return store
    | .error e => throw (.config e)) store
  return { w with
    store
    handles := cells.map (fun c => (c.1, ⟨c.2, true⟩)) ++ w.handles
    pinned := cells.map (·.2) ++ w.pinned }

end Workbench

end Descent

import Descent.Grammar.Basic

/-!
# Blueprints

A blueprint is a grammar as it is written down: with names in place of cells,
and with a configuration that has still to be checked. The first fault in
reading order is the one that is reported.
-/
namespace Descent

/-- A way to reach a cell; an owning one keeps it alive. -/
structure Handle where
  cell : Nat
  owning : Bool
  deriving DecidableEq, Repr

inductive Blueprint (V C : Type) where
  | literal (s : String) (hook : Script V C)
  | identifier (first following : String) (hook : Script V C)
  | natural (radix : Nat) (hook : Script V C)
  | blanks (newlines : Bool) (hook : Script V C)
  | textEnd (hook : Script V C)
  | regexp (pattern : String) (hook : Script V C)
  | lineComment (start : String) (hook : Script V C)
  | blockComment (start stop : String) (hook : Script V C)
  | all (subs : List (Blueprint V C)) (hook : Script V C)
  | any (subs : List (Blueprint V C)) (hook : Script V C)
  | best (subs : List (Blueprint V C)) (hook : Script V C)
  | optional (sub : Blueprint V C) (hook : Script V C)
  | repeated (sub : Blueprint V C) (min : Nat) (max : Option Nat) (hook : Script V C)
  | reference (name : String)
  | script (body : Script V C)

inductive BlueprintError where
  | config (e : ConfigError)
  | unknownName (name : String)
  deriving DecidableEq, Repr

namespace Blueprint

variable {V C : Type}

instance : Inhabited (Blueprint V C) := ⟨.all [] .done⟩

/-- A primitive with its hook, once its configuration has been checked. -/
def checked (p : Except ConfigError Primitive) (hook : Script V C) :
    Except BlueprintError (Grammar V C) :=
  match p with
  | .ok p => .ok (.primitive p hook)
  | .error e => .error (.config e)

mutual

def build (handles : String → Option Handle) (b : Blueprint V C)
    (compile : Engine := .standard) : Except BlueprintError (Grammar V C) :=
  match b with
  | literal s hook => checked (Primitive.literal? s) hook
  | identifier first following hook => .ok (.primitive (.identifier first following) hook)
  | natural radix hook => checked (Primitive.natural? radix) hook
  | blanks newlines hook => .ok (.primitive (.blanks newlines) hook)
  | textEnd hook => .ok (.primitive .textEnd hook)
  | regexp pattern hook => checked (Primitive.regexp? compile pattern) hook
  | lineComment start hook => checked (Primitive.lineComment? start) hook
  | blockComment start stop hook => checked (Primitive.blockComment? start stop) hook
  | all subs hook => return .all (← buildAll handles subs compile) hook
  | any subs hook => return .any (← buildAll handles subs compile) hook
  | best subs hook => return .best (← buildAll handles subs compile) hook
  | optional sub hook => return .optional (← build handles sub compile) hook
  | repeated sub min max hook => return .repeated (← build handles sub compile) min max hook
  | reference name =>
    match handles name with
    | some h => .ok (.reference h.cell h.owning)
    | none => .error (.unknownName name)
  | script body => .ok (.script body)

def buildAll (handles : String → Option Handle) (bs : List (Blueprint V C)) (compile : Engine) :
    Except BlueprintError (List (Grammar V C)) :=
  match bs with
  | [] => .ok []
  | b :: bs => return (← build handles b compile) :: (← buildAll handles bs compile)

end

end Blueprint

end Descent

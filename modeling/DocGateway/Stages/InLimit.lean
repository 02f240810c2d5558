import DocGateway.Pipeline.Run
import DocGateway.Stages.Settings
/-!
# The limit of membership lists

Filters whose lists of members are longer than a limit are refused. The predicates of fields are
looked at, and the clauses in lists of clauses to any depth.
-/

namespace DocGateway.InLimit

open Bson (Document Value)

/-- The operators that take a list of members. -/
def operators : List String := ["$in", "$nin"]

/-- The refusal of an operator that has no list. -/
def notAList (operator : String) : ServerError := .ofCode .badValue s!"{operator} needs an array"

/-- The refusal of a list that is too long. -/
def tooLong (operator : String) (n limit : Nat) : ServerError :=
  .ofCode .illegalOperation s!"{operator} clause of {n} elements is longer than limit of {limit}"

/-- Checks the operators of one predicate. -/
def checkPredicate (limit : Nat) : Document → Except ServerError Unit
  | [] => .ok ()
  | (operator, v) :: rest =>
    if operators.contains operator then
      match v with
      | .array items =>
        if limit < items.length then .error (tooLong operator items.length limit)
        else checkPredicate limit rest
      | _ => .error (notAList operator)
    else checkPredicate limit rest

mutual

/-- Checks a filter: its predicates, and its lists of clauses. -/
def checkFilter (limit : Nat) : Document → Except ServerError Unit
  | [] => .ok ()
  | (_, .document predicate) :: rest => do
    checkPredicate limit predicate
    checkFilter limit rest
  | (_, .array clauses) :: rest => do
    checkClauses limit clauses
    checkFilter limit rest
  | _ :: rest => checkFilter limit rest

/-- Checks those of some clauses that are filters. -/
def checkClauses (limit : Nat) : List Value → Except ServerError Unit
  | [] => .ok ()
  | .document clause :: rest => do
    checkFilter limit clause
    checkClauses limit rest
  | _ :: rest => checkClauses limit rest

end

/-- Checks the filter under a key, if there is one. -/
def checkField (limit : Nat) (d : Document) (key : String) : Except ServerError Unit :=
  match d.getDocument? key with
  | some filter => checkFilter limit filter
  | none => .ok ()

/-- Checks the filters of the statements under a key. -/
def checkStatements (limit : Nat) (d : Document) (key : String) : Except ServerError Unit :=
  ((d.getArray? key).getD []).forM fun
    | .document statement => checkField limit statement "q"
    | _ => .ok ()

/-- Checks all filters of a command. A limit of zero checks nothing. -/
def check (limit : Nat) (commandName : String) (d : Document) : Except ServerError Unit :=
  if limit = 0 then .ok ()
  else
    match commandName with
    | "find" => checkField limit d "filter"
    | "findAndModify" => checkField limit d "query"
    | "update" => checkStatements limit d "updates"
    | "delete" => checkStatements limit d "deletes"
    | _ => .ok ()

/-- The stage. -/
def stage {σ : Type} (name : String) (limit : Nat) : Stage σ where
  name
  enter s :=
    match check limit s.request.commandName s.document with
    | .ok _ => .pass s fun a s => (.answered a, s)
    | .error e => .stop (.response e.document) s

/-- Reads the limit. -/
def limitOfDocument (d : Document) : Except ServerError Nat := do
  Settings.onlyKeys d ["in_limit"]
  Settings.field d "in_limit" 0 Settings.natural?

end DocGateway.InLimit

import SqlCompose.Condition.Comparer

/-!
# Failures

What can be wrong with the description of a statement, and what can go wrong when it is run.
-/

namespace SqlCompose

/-- Why a statement cannot be built. -/
inductive BuildError where
  /-- Conditions are null. -/
  | missingConditions
  /-- Conditions are neither an object nor an array but of this kind. -/
  | invalidConditions (kind : String)
  /-- A column is compared with an array or an object. -/
  | invalidOperand (kind key : String)
  /-- A key that starts with a dollar names no modifier. -/
  | unknownModifier (key : String)
  /-- A null value meets a comparer that has no test for null. -/
  | nullComparison (comparer : Comparer)
  /-- A join has no table. -/
  | missingJoinTable
  /-- A join is no object but of this kind. -/
  | invalidJoin (kind : String)
  /-- The required sides of a join are none of the known ones. -/
  | invalidRequired (mode : String)
  /-- A conflict is handled outside of an insert. -/
  | conflictWithoutInsert
  /-- A conflict is handled in an unknown way. -/
  | unsupportedConflict (action : String)
  /-- An update on conflict has no target. -/
  | missingConflictTarget
  /-- There is nothing to assign. -/
  | missingAssignments
  /-- Assignments are no object but of this kind. -/
  | invalidAssignments (kind : String)
  deriving DecidableEq, Repr

/-- The wording of the failure. -/
def BuildError.message : BuildError → String
  | missingConditions => "Conditions must be provided"
  | invalidConditions kind =>
    "Conditions must be an object or an array of objects, got " ++ kind
  | invalidOperand kind key =>
    "Conditions must be an object or an array of objects, got " ++ kind ++ " under `" ++ key ++ "`"
  | unknownModifier key => "Unknown modifier " ++ key
  | nullComparison comparer => "Modifier " ++ comparer.key ++ " is not usable with null values"
  | missingJoinTable => "Missing table in join"
  | invalidJoin kind => "Join spec must be an object, got " ++ kind
  | invalidRequired mode =>
    "Invalid join required mode `" ++ mode ++ "`; expected one of none, local, foreign, both"
  | conflictWithoutInsert => "on_conflict is only available when inserting"
  | unsupportedConflict action =>
    "Unsupported conflict action `" ++ action ++ "`; expected `nothing` or `update`"
  | missingConflictTarget => "on_conflict update needs at least one target key"
  | missingAssignments => "Keys and values must be provided"
  | invalidAssignments kind => "Keys and values must be an object, got " ++ kind

/-- Why a run has no result. -/
inductive RunError where
  /-- The statement cannot be built. -/
  | build (cause : BuildError)
  /-- The server refuses the statement. -/
  | query (message : String)
  /-- A column of a row cannot be read. -/
  | decode (column message : String)
  /-- The executor fails. -/
  | executor (message : String)
  deriving DecidableEq, Repr

/-- The wording of the failure. -/
def RunError.message : RunError → String
  | build cause => cause.message
  | query message => "Query error: " ++ message
  | decode column message => "Decode error on column '" ++ column ++ "': " ++ message
  | executor message => "Executor error: " ++ message

end SqlCompose

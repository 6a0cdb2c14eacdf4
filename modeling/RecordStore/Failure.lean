/-
Why an operation of the store failed, and the message each failure shows. A wrapped fault stays
with the failure as its cause.
-/
import RecordStore.Fault
import RecordStore.Text.Numeral
import RecordStore.Validation
import RecordStore.Value.Text

namespace RecordStore

/-- The statements the store can fail to run. -/
inductive Purpose where
  | createTable | findMany | findOne | create | update | delete
  deriving DecidableEq, Repr

/-- What the statement was to do. -/
def Purpose.text : Purpose → String
  | .createTable => "create table"
  | .findMany => "find records"
  | .findOne => "find record"
  | .create => "create record"
  | .update => "update records"
  | .delete => "delete records"

/-- The views of a mapping that an argument may turn out not to have. -/
inductive MapView where
  | items | get | values
  deriving DecidableEq, Repr

def MapView.name : MapView → String
  | .items => "items"
  | .get => "get"
  | .values => "values"

/-- The failures of conditions, options, operations and statements. -/
inductive Failure where
  /-- The client is not connected, or no longer. -/
  | notConnected
  /-- A closed client was asked to connect again. -/
  | closedForGood
  /-- The database could not be opened. -/
  | cannotOpen (cause : Fault)
  /-- The engine failed while it ran a statement. -/
  | storage (purpose : Purpose) (cause : Fault)
  /-- A record was not there when it was read back after its insertion. -/
  | notInserted
  /-- A condition uses an operator that does not exist. -/
  | unknownOperator (key : Value)
  /-- A deletion came without a condition. -/
  | missingCondition
  /-- The query options were rejected. -/
  | invalidOptions (cs : List Complaint)
  /-- A number has too many digits to be written into a statement. -/
  | tooManyDigits
  /-- A value of this type was used as a mapping. -/
  | notMapping (k : Kind) (view : MapView)
  /-- A value of this type was walked over. -/
  | notIterable (k : Kind)
  /-- The item at this place of what was to be joined is of this type and no text. -/
  | itemNotText (place : Nat) (k : Kind)
  /-- A driver was used before it had opened a connection. -/
  | noHandle (method : String)
  /-- A fault from outside, passed on unchanged. -/
  | passed (f : Fault)
  deriving Repr

/-- The message of each class of error when none is given. -/
def ErrorClass.defaultMessage : ErrorClass → String
  | .notConnected => "Database not connected. Call connect() first."
  | .missingCondition => "Delete operation requires where clause"
  | _ => ""

/-- How many arguments an error of a class can be made with; `none` for any number. The error
itself counts as one. -/
def ErrorClass.arity : ErrorClass → Option (Nat × Nat)
  | .unknownOperator => some (2, 2)
  | .notConnected => some (1, 2)
  | .missingCondition => some (1, 2)
  | _ => none

/-- Why an error cannot be made: a wrong number of arguments, counted with the error itself. -/
inductive ArityMismatch where
  /-- The operator is missing. -/
  | noOperator
  | tooMany (least most given : Nat)
  deriving DecidableEq, Repr

/-- The message of a mismatch, where `making` names what makes the error. -/
def ArityMismatch.message (making : String) : ArityMismatch → String
  | .noOperator => making ++ " missing 1 required positional argument: 'operator'"
  | .tooMany least most given =>
    let range := if least = most then "" else "from " ++ toString least ++ " to "
    making ++ " takes " ++ range ++ toString most ++ " positional arguments but " ++
      toString given ++ " were given"

/-- Checks the number of arguments of an error. -/
def ErrorClass.mismatch? (c : ErrorClass) (args : List Value) : Option ArityMismatch :=
  let given := args.length + 1
  match c.arity with
  | none => none
  | some (least, most) =>
    if given < least then some .noOperator
    else if most < given then some (.tooMany least most given)
    else none

/-- The message of an error made with the given arguments: the default without one, the argument's
text with one, the notation of all of them with more. -/
def ErrorClass.messageOf (c : ErrorClass) (args : List Value) : Except ArityMismatch String :=
  match c.mismatch? args, args with
  | some m, _ => .error m
  | none, [] => .ok c.defaultMessage
  | none, [v] => .ok ((if c = .unknownOperator then "Unknown operator: " else "") ++ v.display)
  | none, vs => .ok (Value.tuple vs).quoted

/-- The classes an error belongs to, the narrowest first. -/
def ErrorClass.ancestors (c : ErrorClass) : List ErrorClass :=
  if c = .database then [.database] else [c, .database]

namespace Failure

def message : Failure → String
  | .notConnected => ErrorClass.notConnected.defaultMessage
  | .closedForGood => "Client has been closed; create a new DBClient to reconnect"
  | .cannotOpen cause => "Failed to connect to database: " ++ cause.message
  | .storage purpose cause => "Failed to " ++ purpose.text ++ ": " ++ cause.message
  | .notInserted => "Failed to create record: Record not found after insertion"
  | .unknownOperator key => "Unknown operator: " ++ key.display
  | .missingCondition => ErrorClass.missingCondition.defaultMessage
  | .invalidOptions cs => "Invalid query options: " ++ complaintHeadline cs "QueryOptions"
  | .tooManyDigits => "Exceeds the limit (" ++ toString maxDigits ++ " digits) for integer string " ++
    "conversion; use sys.set_int_max_str_digits() to increase the limit"
  | .notMapping k view => "'" ++ k.name ++ "' object has no attribute '" ++ view.name ++ "'"
  | .notIterable k => "'" ++ k.name ++ "' object is not iterable"
  | .itemNotText place k =>
    "sequence item " ++ toString place ++ ": expected str instance, " ++ k.name ++ " found"
  | .noHandle method => "'NoneType' object has no attribute '" ++ method ++ "'"
  | .passed f => f.message

/-- The fault behind a failure that wraps one. -/
def cause? : Failure → Option Fault
  | .cannotOpen cause => some cause
  | .storage _ cause => some cause
  | .passed f => f.cause?
  | _ => none

/-- The operator an unknown-operator failure is about. -/
def operator? : Failure → Option Value
  | .unknownOperator key => some key
  | .passed f => f.operator?
  | _ => none

end Failure

/-- The texts of items that are to be joined; `place` is that of the first one. The first item that
is no text is a failure. -/
def textsToJoin (place : Nat) : List Value → Except Failure (List String)
  | [] => .ok []
  | .text s :: rest => (textsToJoin (place + 1) rest).map (s :: ·)
  | v :: _ => .error (.itemNotText place v.kind)

/-- Items that are joined are the texts that they are joined as. -/
theorem textsToJoin_ok {place : Nat} {vs : List Value} {texts : List String} (h : textsToJoin place vs = .ok texts) :
    vs = texts.map .text := by
  induction vs generalizing place texts with
  | nil =>
    cases h
    rfl
  | cons v vs ih =>
    cases v with
    | text s =>
      unfold textsToJoin at h
      cases hrest : textsToJoin (place + 1) vs with
      | error e => simp [hrest, Except.map] at h
      | ok rest =>
        simp only [hrest, Except.map, Except.ok.injEq] at h
        rw [← h, List.map_cons, ← ih hrest]
    | _ => cases h

/-- Items are refused for one that is no text. -/
theorem textsToJoin_error {place : Nat} {vs : List Value} {e : Failure} (h : textsToJoin place vs = .error e) :
    ∃ place k, e = .itemNotText place k := by
  induction vs generalizing place with
  | nil => cases h
  | cons v vs ih =>
    cases v with
    | text s =>
      unfold textsToJoin at h
      cases hrest : textsToJoin (place + 1) vs with
      | error e' =>
        simp only [hrest, Except.map, Except.error.injEq] at h
        exact ih (h ▸ hrest)
      | ok rest => simp [hrest, Except.map] at h
    | _ =>
      cases h
      exact ⟨_, _, rfl⟩

end RecordStore

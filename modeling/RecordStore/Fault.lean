/-
Faults from outside: what a storage engine, the operating system or an identifier source may
signal. The store looks only at the family of a fault. Engine faults are the ones it reports as
its own storage errors; system faults matter while a database is opened; all others pass through
it unchanged.
-/
import RecordStore.Text.Quoted
import RecordStore.Value.Basic

namespace RecordStore

/-- The classes of the store's own errors. -/
inductive ErrorClass where
  | database | notConnected | connection | unknownOperator | missingCondition | storage
  | invalidOptions
  deriving DecidableEq, Repr

/-- Faults of the storage engine. -/
inductive EngineFault where
  | general | interface | database | operational | integrity | programming | data | internal
  | notSupported
  deriving DecidableEq, Repr

/-- Faults of the operating system. -/
inductive SystemFault where
  | general | permission | notFound | alreadyExists | isDirectory | notDirectory | interrupted
  | timedOut | blocking | childProcess | processLookup | connection | connectionRefused
  | connectionReset | connectionAborted | brokenPipe
  deriving DecidableEq, Repr

/-- What kind of fault was signalled. `own` is one of the store's classes, signalled by someone
else; `missingKey` shows its text in quotes. `iterationEnd` is no failure in itself but the signal
that an iteration is over, and `strayIterationEnd` is what becomes of it outside of an iteration. -/
inductive FaultKind where
  | engine (f : EngineFault)
  | system (f : SystemFault)
  | own (c : ErrorClass)
  | missingKey
  | iterationEnd
  | strayIterationEnd
  | other (name : String)
  deriving DecidableEq, Repr

/-- A fault and the text it was signalled with. -/
structure Fault where
  kind : FaultKind
  detail : String
  deriving DecidableEq, Repr

namespace Fault

def isEngine (f : Fault) : Bool :=
  match f.kind with
  | .engine _ => true
  | _ => false

def isSystem (f : Fault) : Bool :=
  match f.kind with
  | .system _ => true
  | _ => false

/-- The key an unknown-operator fault carries. -/
def operator? (f : Fault) : Option Value :=
  match f.kind with
  | .own .unknownOperator => some (.text f.detail)
  | _ => none

/-- The message a fault shows. -/
def message (f : Fault) : String :=
  match f.kind with
  | .own .unknownOperator => "Unknown operator: " ++ f.detail
  | .missingKey => quotedText f.detail
  | .strayIterationEnd => "coroutine raised StopIteration"
  | _ => f.detail

/-- What a fault is outside of the call that it ended. -/
def outside (f : Fault) : Fault :=
  if f.kind = .iterationEnd then { f with kind := .strayIterationEnd } else f

/-- The fault behind a fault. -/
def cause? (f : Fault) : Option Fault :=
  if f.kind = .strayIterationEnd then some { f with kind := .iterationEnd } else none

end Fault

end RecordStore

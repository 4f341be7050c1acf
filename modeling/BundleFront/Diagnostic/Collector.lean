import BundleFront.Diagnostic.Report

/-!
# Collectors

A collector is shared by everything that takes part in a call.  It accepts
diagnostics one by one or in batches, can be looked at, and is emptied when the
call is over.  Each of those who share it has a handle of its own, and a handle
can be copied: the copy leads to the same collector.
-/

namespace BundleFront.Collector

/-- An operation on a collector. -/
inductive Operation
  | add (d : Diagnostic)
  | addError (text : String)
  | addWarning (text : String)
  | addBatch (batch : List Diagnostic)
  | length
  | isEmpty
  | errorCount
  | hasErrors
  | snapshot
  | finish (options : LogOptions)
deriving DecidableEq, Repr

/-- What an operation hands back. -/
inductive Answer
  | nothing
  | number (n : Nat)
  | flag (b : Bool)
  | seen (log : Log)
  | finished (drained : Log) (reported : List ReportLine)
deriving DecidableEq, Repr

/-- One operation on a collector that holds `log`. -/
def step (log : Log) : Operation → Answer × Log
  | .add d => (.nothing, log.add d)
  | .addError text => (.nothing, log.addError text)
  | .addWarning text => (.nothing, log.addWarning text)
  | .addBatch batch => (.nothing, log.addBatch batch)
  | .length => (.number log.length, log)
  | .isEmpty => (.flag log.isEmpty, log)
  | .errorCount => (.number log.errorCount, log)
  | .hasErrors => (.flag log.hasErrors, log)
  | .snapshot => (.seen log, log)
  | .finish options => (.finished log (log.report options), [])

/-- Collectors and the handles on them, each numbered in the order in which they were made. -/
@[ext] structure Store where
  /-- What each collector holds -/
  logs : List Log
  /-- The collector that each handle leads to -/
  handles : List Nat
  handles_lt : ∀ place ∈ handles, place < logs.length

/-- Something that is done with collectors. -/
inductive Command
  /-- Make a collector, with a handle on it -/
  | create
  /-- Make another handle on the collector of a handle -/
  | copy (handle : Nat)
  | use (handle : Nat) (operation : Operation)
deriving DecidableEq, Repr

namespace Store

/-- No collectors and no handles. -/
def empty : Store where
  logs := []
  handles := []
  handles_lt := fun _ hplace => absurd hplace List.not_mem_nil

/-- What a collector holds. -/
def logAt (store : Store) (place : Nat) : Log := store.logs.getD place []

/-- The collector that a handle leads to. -/
def place? (store : Store) (handle : Nat) : Option Nat := store.handles[handle]?

def create (store : Store) : Store where
  logs := store.logs ++ [[]]
  handles := store.handles ++ [store.logs.length]
  handles_lt := by
    intro place hplace
    rw [List.length_append, List.length_singleton]
    rcases List.mem_append.mp hplace with hold | hnew
    · exact Nat.lt_succ_of_lt (store.handles_lt place hold)
    · exact Nat.lt_succ_of_le (Nat.le_of_eq (List.mem_singleton.mp hnew))

def copy (store : Store) (handle : Nat) : Store where
  logs := store.logs
  handles := store.handles ++ (store.place? handle).toList
  handles_lt := by
    intro place hplace
    rcases List.mem_append.mp hplace with hold | hnew
    · exact store.handles_lt place hold
    · exact store.handles_lt place (List.mem_of_getElem? (Option.mem_toList.mp hnew))

/-- An operation on one of the collectors. -/
def operate (store : Store) (place : Nat) (operation : Operation) : Answer × Store :=
  let result := step (store.logAt place) operation
  (result.1, {
    logs := store.logs.set place result.2
    handles := store.handles
    handles_lt := by
      rw [List.length_set]
      exact store.handles_lt })

/-- Carry a command out.  Nothing is done for a handle that there is not. -/
def execute (store : Store) : Command → Answer × Store
  | .create => (.nothing, store.create)
  | .copy handle => (.nothing, store.copy handle)
  | .use handle operation =>
      match store.place? handle with
      | none => (.nothing, store)
      | some place => store.operate place operation

/-- The answers to commands, with the store in the end. -/
def run (store : Store) : List Command → List Answer × Store
  | [] => ([], store)
  | command :: rest =>
      let result := store.execute command
      let others := result.2.run rest
      (result.1 :: others.1, others.2)

end Store
end BundleFront.Collector

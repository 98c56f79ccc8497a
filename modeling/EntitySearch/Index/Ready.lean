import EntitySearch.Procedure

/-!
# Which indices are ready

Every index has a guard. Whoever finds the guard open enters and sets the index up; others wait
until it leaves. If the set-up succeeds the index is ready and nobody enters again; if it fails
the next one enters. An index that is deleted loses its guard, and those still behind the old one
do not matter for the new one.

* `Guard`: the guard of an index.
* `ReadyTable`: the guards by index.
* `Guarding`: the requests to a table, each of them one access.
-/

namespace EntitySearch

/-- The guard of an index. -/
inductive Guard where
  /-- Nobody has set the index up. -/
  | vacant
  /-- Somebody is setting the index up. -/
  | entered
  /-- The index is ready. -/
  | ready
deriving DecidableEq

/-- The guards of indices. -/
structure ReadyTable where
  /-- All guards ever made, by number. -/
  guards : List Guard := []
  /-- The number of the guard of an index. -/
  numbers : List (String × Nat) := []

namespace ReadyTable

/-- The number of the guard of an index. -/
def number? (table : ReadyTable) (index : String) : Option Nat :=
  (table.numbers.find? fun (name, _) => name = index).map (·.2)

/-- Whether an index is known to be ready. -/
def isKnown (table : ReadyTable) (index : String) : Bool :=
  match table.number? index with
  | some number => table.guards[number]? == some .ready
  | none => false

/-- The number of the guard of an index, which gets a new one if it has none. -/
def guardOf (table : ReadyTable) (index : String) : Nat × ReadyTable :=
  match table.number? index with
  | some number => (number, table)
  | none =>
    (table.guards.length,
      { guards := table.guards ++ [.vacant]
        numbers := table.numbers ++ [(index, table.guards.length)] })

/-- Enters a guard, or says that the index is ready; there is no answer while another one is
inside. -/
def enter? (table : ReadyTable) (number : Nat) : Option (Bool × ReadyTable) :=
  match table.guards[number]? with
  | some .ready => some (true, table)
  | some .vacant => some (false, { table with guards := table.guards.set number .entered })
  | _ => none

/-- Leaves a guard, after the set-up of the index succeeded or failed. -/
def leave (table : ReadyTable) (number : Nat) (success : Bool) : ReadyTable :=
  { table with guards := table.guards.set number (if success then .ready else .vacant) }

/-- Takes the guard of an index away. -/
def forget (table : ReadyTable) (index : String) : ReadyTable :=
  { table with numbers := table.numbers.filter fun (name, _) => name ≠ index }

end ReadyTable

/-- What is asked of a table. -/
inductive GuardRequest where
  /-- The number of the guard of an index. -/
  | guardOf (index : String)
  /-- Enters a guard; whether the index is ready already. -/
  | enter (number : Nat)
  /-- Leaves a guard. -/
  | leave (number : Nat) (success : Bool)
  /-- Takes the guard of an index away. -/
  | forget (index : String)

/-- Accesses to a table of guards. -/
def Guarding : Protocol where
  Request := GuardRequest
  Reply
    | .guardOf _ => Nat
    | .enter _ => Bool
    | .leave _ _ => Unit
    | .forget _ => Unit

/-- One access to a table; there is no answer while it has to wait. -/
def ReadyTable.serve? (table : ReadyTable) :
    (request : GuardRequest) → Option (Guarding.Reply request × ReadyTable)
  | .guardOf index => some (table.guardOf index)
  | .enter number => table.enter? number
  | .leave number success => some ((), table.leave number success)
  | .forget index => some ((), table.forget index)

end EntitySearch

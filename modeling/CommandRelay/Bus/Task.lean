import CommandRelay.Correlation.Desk

/-!
# Tasks that wait for a call

A task makes one call and keeps its result until somebody asks for it.
-/

namespace CommandRelay.Bus

/-- A task: its call, and the result once there is one.  A task whose name was given to a later one
has none. -/
structure Task where
  name : Option String
  call : CallId
  result : Option CallResult := none

/-- How a task stands. -/
inductive Standing where
  /-- There is no such task, or its result was collected. -/
  | unknown
  | waiting
  | ended (result : CallResult)

namespace Task

/-- The task with a name. -/
def find? (tasks : List Task) (name : String) : Option Task :=
  tasks.find? (·.name == some name)

/-- Adds a task under a name, which an earlier task loses. -/
def add (tasks : List Task) (t : Task) : List Task :=
  t :: tasks.map fun u => if u.name = t.name then { u with name := none } else u

/-- Takes the task of a call out. -/
def remove (tasks : List Task) (call : CallId) : List Task :=
  tasks.filter (·.call != call)

/-- Notes the results of calls. -/
def note (tasks : List Task) (ended : List (CallId × CallResult)) : List Task :=
  tasks.map fun t =>
    match ended.find? (·.1 == t.call) with
    | some (_, r) => { t with result := some r }
    | none => t

/-- Asks how a task stands; a result is given out once. -/
def poll (tasks : List Task) (name : String) : Standing × List Task :=
  match find? tasks name with
  | none => (.unknown, tasks)
  | some t =>
    match t.result with
    | none => (.waiting, tasks)
    | some r => (.ended r, remove tasks t.call)

end Task

end CommandRelay.Bus

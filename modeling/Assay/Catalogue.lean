import Assay.Catalogue.Offices
import Assay.Catalogue.Reviews

/-!
# The catalogue of tasks

The tasks that can be run by name.
-/
namespace Assay.Catalogue

/-- The tasks in the order of their names. -/
def tasks : List Task := [reviews, offices]

/-- The names of the tasks. -/
def names : List String := tasks.map Task.name

/-- The task with a name. -/
def task (name : String) : Except Error Task :=
  match tasks.find? (·.name = name) with
  | some task => .ok task
  | none => .error (.unknownTask name names)

end Assay.Catalogue

import HealthAlert.Value.Basic

/-!
# Permission blocks

Model of `ensure_permissions_actions`.

Every entry of a `permissions` list carries four lists of actions. `Permissions.complete` adds
the missing ones, empty, to each record in such a list, wherever in a document the list stands:
it walks lists and records at any depth, changes nothing that is there, and adds at the end.
-/

namespace HealthAlert.Permissions

/-- The key under which a record holds its permission entries. -/
def blockKey : String := "permissions"

/-- The lists of actions that a permission entry has. -/
def actionKeys : List String := ["actions", "notActions", "dataActions", "notDataActions"]

/-- The entries with an empty list under `key` when the key is absent. -/
def addMissing (entries : List (String × Value)) (key : String) : List (String × Value) :=
  if Keyed.has entries key then entries else entries ++ [(key, .list [])]

/-- A permission entry with all its lists of actions; anything but a record stays as it is. -/
def completeEntry : Value → Value
  | .record entries => .record (actionKeys.foldl addMissing entries)
  | v => v

/-- A permission block with its entries completed; anything but a list stays as it is. -/
def completeBlock : Value → Value
  | .list entries => .list (entries.map completeEntry)
  | v => v

mutual

/-- `ensure_permissions_actions`: the document with all its permission entries complete. -/
def complete : Value → Value
  | .list items => .list (completeItems items)
  | .record entries => .record (completeFields entries)
  | v => v

/-- The elements of a list, completed. -/
def completeItems : List Value → List Value
  | [] => []
  | v :: vs => complete v :: completeItems vs

/-- The fields of a record, completed; a permission block gets its action lists. -/
def completeFields : List (String × Value) → List (String × Value)
  | [] => []
  | (key, v) :: rest =>
    (key, if key = blockKey then completeBlock (complete v) else complete v) :: completeFields rest

end

end HealthAlert.Permissions

import Stencil.Config.Layers
import Stencil.Files.Access
import Stencil.Formats.Toml.Read

/-!
# Configuration files

The configuration of a user and that of a project are tables in TOML files, and one table is made of
the two. The project's comes from the first of its files that holds anything; the files after it are
not looked at. It replaces what the user chose, entry by entry, except that the profiles of both are
kept: a profile of the project replaces the whole profile of the user that has its name.
-/

namespace Stencil.Config

/-- The names of the files that a project may keep its configuration in, in the order in which they
are looked for. -/
def projectFiles : List Text :=
  [".lightbars.toml".toList, "lightbars.toml".toList, "pyproject.toml".toList]

/-- The project file that is shared with other tools, where each has a table of its own. -/
def sharedFile : Text := "pyproject.toml"

/-- The tables of a shared file that lead to the one of this program. -/
def sharedTables : List Text := ["tool".toList, "lightbars".toList]

/-- What a table holds under names, one inside the other. What is not there is an empty table. -/
def lookInside : List Text → Value → Except Escape Value
  | [], v => .ok v
  | name :: rest, .dict entries => lookInside rest ((Dict.get? name entries).getD (.dict []))
  | _ :: _, _ => .error .notTable

/-- What a fault of the reader means for a configuration file. -/
def documentFailure (path : Path) (e : DocumentError) : Failure ConfigError :=
  match e.escape? with
  | none => .reported (.unreadable path.toText)
  | some e => .escaped e

/-- What a read that failed means for a configuration file. -/
def readFailure (path : Path) (e : Escape) : Failure ConfigError :=
  if e.isAccess then .reported (.unreadable path.toText) else .escaped e

/-- The configuration in a file; an empty one where there is no file. -/
def ofFile (t : FileTree) (path : Path) : Except (Failure ConfigError) Value := do
  if ← (t.isFile path.toText).mapError .escaped then
    let s ← (t.readText path.toText).mapError (readFailure path)
    let v ← (Toml.read s).mapError (documentFailure path)
    if path.name = sharedFile then (lookInside sharedTables v).mapError .escaped else return v
  else return .dict []

/-- The table of a project's configuration, which holds something. -/
def projectTable : Value → Except Escape Dict
  | .dict entries => .ok entries
  | .list _ => .error .noParts
  | _ => .error .notTable

/-- The first table that holds anything among some files of a directory. -/
def firstTable (t : FileTree) (dir : Path) : List Text → Except (Failure ConfigError) (Option Dict)
  | [] => .ok none
  | name :: rest => do
    let v ← ofFile t (dir.within (.ofText name))
    if v.truthy then (projectTable v).mapError .escaped |>.map some else firstTable t dir rest

/-- The configuration of the user with that of a project on top of it. -/
def merged (user project : Dict) : Dict :=
  let profiles : Dict :=
    match (Dict.get? profilesKey user).getD (.dict []), Dict.get? profilesKey project with
    | .dict ours, some (.dict (p :: ps)) =>
      Dict.insert (.text profilesKey) (.dict (Dict.update ours (p :: ps))) user
    | _, _ => user
  profiles.update (Dict.erase profilesKey project)

/-- The configuration for a user's file and a project's directory. -/
def load (t : FileTree) (userFile dir : Path) : Except (Failure ConfigError) Dict := do
  let user ← ofFile t userFile
  match ← firstTable t dir projectFiles with
  | none => return user.entries?.getD []
  | some project => return merged (user.entries?.getD []) project

end Stencil.Config

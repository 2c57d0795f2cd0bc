import TemplateEngine.RenderCommand

/-!
# The command line

`render FILE`, with `--data PATH` for a file with data and `--root PATH` for the directory of the
templates. The files that a rendering can need are read first: those below the root, the settings
and the data. What lies behind a link that leaves these places is only known by its name.
-/

namespace TemplateEngine.CommandLine

/-! ## Arguments -/

/-- The options after the name of the view. -/
def options (command : RenderCommand) : List String → Option RenderCommand
  | [] => some command
  | [_] => none
  | option :: value :: rest =>
    if option = "-d" ∨ option = "--data" then
      options { command with data := some value } rest
    else if option = "-r" ∨ option = "--root" then
      options { command with root := some value } rest
    else none

/-- The command that arguments ask for. -/
def command? : List String → Option RenderCommand
  | "render" :: file :: rest => options ⟨file, none, none⟩ rest
  | _ => none

/-- What is printed if there is no command. -/
def usage : String := "usage: render FILE [--data PATH] [--root PATH]"

/-! ## Files -/

/-- The place of a path from the root directory. -/
def locationOf (path : String) : Location := (FileTree.namesOf path).filter (· ≠ "")

/-- The file at a path. -/
def fileAt (path : String) : IO FileEntry := do
  try
    return .file (← IO.FS.readFile path)
  catch error =>
    return .unreadable (toString error)

/-- The path without links that a path leads to. -/
def realPath? (path : String) : IO (Option String) := do
  try
    return some (← IO.FS.realPath path).toString
  catch _ =>
    return none

/-- What stands below a directory. -/
partial def entriesBelow (directory : String) : IO (List (Location × FileEntry)) := do
  let found ← (← IO.FS.realPath directory).readDir
  let entries ← found.toList.mapM fun entry => do
    let path := entry.path.toString
    let place := locationOf path
    match ← realPath? path with
    | none => return []
    | some target =>
      let isDirectory ← entry.path.isDir
      if target = path then
        if isDirectory then return (place, .directory) :: (← entriesBelow path)
        else return [(place, ← fileAt path)]
      else
        let content ← if isDirectory then pure FileEntry.directory else fileAt target
        return [(place, .link target), (locationOf target, content)]
  return entries.flatten

/-- What a path leads to, from the current directory on. -/
def entriesAt (current path : String) : IO (List (Location × FileEntry)) := do
  match ← realPath? path with
  | none => return []
  | some target =>
    let written := locationOf (FileTree.join current path)
    let link :=
      if written = locationOf target ∨ ".." ∈ written then [] else [(written, .link target)]
    if ← (← IO.FS.realPath target).isDir then
      return link ++ (locationOf target, .directory) :: (← entriesBelow target)
    else return link ++ [(locationOf target, ← fileAt target)]

/-- The files that a command can need. -/
def loadTree (command : RenderCommand) : IO FileTree := do
  let current := (← IO.FS.realPath ".").toString
  let settings ← entriesAt current Project.fileName
  let data ← command.data.mapM (entriesAt current)
  let root ← entriesAt current (command.root.getD current)
  return ⟨(locationOf current, .directory) :: settings ++ data.getD [] ++ root, locationOf current⟩

/-- Runs a command. -/
def runCommand (command : RenderCommand) : IO UInt32 := do
  match command.run (← loadTree command) with
  | .ok text =>
    IO.print text
    return 0
  | .error message =>
    IO.eprintln ("Error: " ++ message)
    return 1

end TemplateEngine.CommandLine

/-- Runs the command that the arguments ask for. -/
def main (args : List String) : IO UInt32 := do
  match TemplateEngine.CommandLine.command? args with
  | some command => TemplateEngine.CommandLine.runCommand command
  | none =>
    IO.eprintln TemplateEngine.CommandLine.usage
    return 2

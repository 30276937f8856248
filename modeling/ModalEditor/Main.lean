import ModalEditor.Program

namespace ModalEditor.Disk

partial def readAll (s : IO.FS.Stream) (seen : ByteArray) : IO ByteArray := do
  let bytes ← s.read 65536
  if bytes.isEmpty then return seen else readAll s (seen ++ bytes)

def fetch (t : FileTree) (path : String) : IO FileTree := do
  try
    return t.place path (.file (← IO.FS.readBinFile path))
  catch
    | .noFileOrDirectory .. => return t
    | _ => return t.place path .directory

def pathsOf (args : List String) (configDirectory : Option String) : List String :=
  let files :=
    match Arguments.parse args with
    | .edit a => a.path.toList ++ a.settings.toList
    | _ => []
  let found := (configDirectory.map fun d => d ++ "/vimline/" ++ SettingsFile.fileName).toList
  SettingsFile.fileName :: found ++ files

def store (before after : FileTree) (path : String) : IO Unit := do
  match before.read path, after.read path with
  | .ok old, .ok new => if old != new then IO.FS.writeBinFile path new
  | _, _ => return

end ModalEditor.Disk

open ModalEditor ModalEditor.Disk

def main (args : List String) : IO UInt32 := do
  let directory ← IO.currentDir
  let config := SettingsFile.configDirectory (← IO.getEnv "XDG_CONFIG_HOME") (← IO.getEnv "HOME")
  let location := (FileTree.namesOf directory.toString).filter (· ≠ "")
  let paths := pathsOf args config
  let before ← paths.foldlM fetch (.empty location)
  let input ← readAll (← IO.getStdin) .empty
  let o := Program.run args before config input
  IO.print o.output
  paths.forM (store before o.files)
  return o.code.number.toUInt32

import ProxyRouting.Config.FileTree

/-!
# The configuration file of a directory

The file `proxies.yaml` is taken if its path leads to one. Otherwise it is the file with the
first name, byte by byte, among those of the directory that have the extension `.yaml`, `.yml`
or `.json`. A directory is never taken, whatever its name.

A listed file need not be found under its path: the path may have become too long, or the path of
the directory may have a zero byte, after which the name is not seen.
-/

namespace ProxyRouting.Config

/-- The name that is preferred to all others. -/
def preferredName : Bytes := ascii "proxies.yaml"

/-- The extension of a file name, with its full stop: what stands from the last full stop
on, unless that is the first byte. -/
def extension (name : Bytes) : Bytes :=
  match cutLast? fullStop name with
  | some (stem, rest) => if stem = [] then [] else fullStop :: rest
  | none => []

/-- Whether a name is that of a configuration file. -/
def isConfigName (name : Bytes) : Bool :=
  extension name = ascii ".yaml" || extension name = ascii ".yml" ||
    extension name = ascii ".json"

/-- The names of the files of a directory. -/
def fileNames : List (Bytes × FileTree) → List Bytes
  | [] => []
  | (name, .file _) :: rest => name :: fileNames rest
  | (_, .directory _) :: rest => fileNames rest

/-- The first of some names. -/
def firstName? : List Bytes → Option Bytes
  | [] => none
  | name :: rest =>
    match firstName? rest with
    | some other => some (if other < name then other else name)
    | none => some name

/-- The path of the configuration file of the directory at some path. -/
def chosenPath? (lookup : Lookup) (directory : Bytes) : Option Bytes :=
  let preferred := FileTree.join directory preferredName
  match lookup preferred with
  | some (.file _) => some preferred
  | _ =>
    match lookup directory with
    | some (.directory entries) =>
      (firstName? ((fileNames entries).filter isConfigName)).map (FileTree.join directory)
    | _ => none

end ProxyRouting.Config

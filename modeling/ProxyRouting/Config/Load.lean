import ProxyRouting.Config.Choice
import ProxyRouting.Config.Schema
import ProxyRouting.Registry

/-!
# Loading a configuration

A configuration is loaded from one file, or from a directory with a configuration file.
The result is a registry, or the cause why the file cannot be used, or that there is no
configuration at all. Loading makes notices of what it does.
-/

namespace ProxyRouting.Config

/-- What loading comes to. -/
inductive LoadResult where
  /-- There is no configuration. -/
  | noConfig
  /-- The file cannot be used. -/
  | failed (source : Bytes) (error : Error)
  /-- The proxies of the file. -/
  | loaded (registry : Registry)
  deriving DecidableEq, Repr

/-- The document at a place. -/
def readDocument (path : Bytes) : Option FileTree → Except Error Document
  | none => .error (.cannotOpen path)
  | some (.file (.document d)) => .ok d
  | some (.file (.malformed message)) => .error (.malformed message)
  | some (.directory _) => .error .isDirectory

/-- The notices about a registry that was loaded. -/
def loadedNotices (registry : Registry) : List Notice :=
  .loaded registry.candidates.length registry.source ::
    match registry.fallback with
    | some proxy => [.fallbackProxy proxy.name]
    | none => []

/-- The registry of a document, or what is wrong with it. -/
def readRegistry (source : Bytes) (d : Document) : Except SchemaError Registry × List Notice :=
  match readProxies d with
  | (.error error, notices) => (.error error, notices)
  | (.ok proxies, notices) =>
    let (registry, dropped) := Registry.build proxies source
    (.ok registry, notices ++ dropped)

/-- A result that tells why the file cannot be used. -/
def failure (source : Bytes) (error : Error) (notices : List Notice) :
    LoadResult × List Notice :=
  (.failed source error, notices ++ [.loadError source error])

/-- Loads the file at a path. -/
def loadFile (lookup : Lookup) (path : Bytes) : LoadResult × List Notice :=
  match readDocument path (lookup path) with
  | .error error => failure path error [.loadingFile path]
  | .ok d =>
    match readRegistry path d with
    | (.error error, notices) => failure path (.schema error) (.loadingFile path :: notices)
    | (.ok registry, notices) =>
      (.loaded registry, .loadingFile path :: notices ++ loadedNotices registry)

/-- Loads the configuration file of the directory at a path. -/
def load (lookup : Lookup) (path : Bytes) : LoadResult × List Notice :=
  match lookup path with
  | none => (.noConfig, [.missingDirectory path])
  | some (.file _) => (.noConfig, [.notADirectory path])
  | some (.directory _) =>
    match chosenPath? lookup path with
    | none => (.noConfig, [.noConfigFile path])
    | some file => loadFile lookup file

end ProxyRouting.Config

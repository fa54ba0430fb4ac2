import ProxyRouting.Text.Decimal

/-!
# Why a configuration cannot be used

A file may be impossible to open, to read or to parse, and the document in it may not have
the form of a configuration. The text of a cause ends where something that it quotes has a
zero byte.
-/

namespace ProxyRouting.Config

/-- What is wrong with the form of a document. -/
inductive SchemaError where
  /-- There are no proxies. -/
  | noProxies
  /-- The proxies are a text. -/
  | notAList (text : Bytes)
  /-- The entry at this position, counted from one, has no name or no URL. -/
  | incompleteEntry (position : Nat)
  deriving DecidableEq, Repr

/-- The text of what is wrong. -/
def SchemaError.message : SchemaError → Bytes
  | noProxies => ascii "no 'proxies' section found"
  | notAList text => untilNul (ascii "'proxies' must be a list, got '" ++ text ++ ascii "'")
  | incompleteEntry position =>
    ascii "proxy entry #" ++ Decimal.ofNat position ++ ascii " lacks 'name' or 'url'"

/-- Why a configuration file cannot be used. -/
inductive Error where
  /-- It cannot be opened. -/
  | cannotOpen (path : Bytes)
  /-- It is a directory, which can be opened but not read. -/
  | isDirectory
  /-- It holds no document; the text is the parser's. -/
  | malformed (message : Bytes)
  /-- Its document does not have the form of a configuration. -/
  | schema (error : SchemaError)
  deriving DecidableEq, Repr

/-- The text of the cause. -/
def Error.message : Error → Bytes
  | cannotOpen path => untilNul (ascii "cannot open " ++ path)
  | isDirectory => ascii "basic_filebuf::underflow error reading the file: Is a directory"
  | malformed message => untilNul message
  | schema error => error.message

end ProxyRouting.Config

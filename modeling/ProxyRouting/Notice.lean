import ProxyRouting.Config.Error

/-!
# Log lines

A notice is one line of the log, and a log is a list of notices. The functions that
read a configuration, build a registry and route a flow give the notices that they
have to make; the text of each is fixed here.
-/

namespace ProxyRouting

/-- One line of the log. -/
inductive Notice where
  /-- A configuration directory is about to be looked at. -/
  | loadingDirectory (directory : Bytes)
  /-- The configuration directory does not exist. -/
  | missingDirectory (directory : Bytes)
  /-- The configuration directory is something else. -/
  | notADirectory (directory : Bytes)
  /-- The configuration directory holds no configuration file. -/
  | noConfigFile (directory : Bytes)
  /-- A configuration file is about to be read. -/
  | loadingFile (source : Bytes)
  /-- A configuration file could not be used. -/
  | loadError (source : Bytes) (error : Config.Error)
  /-- A configuration file was loaded. -/
  | loaded (count : Nat) (source : Bytes)
  /-- The loaded configuration has a fallback. -/
  | fallbackProxy (name : Bytes)
  /-- An entry is skipped because of its weight. -/
  | invalidWeight (name : Bytes) (weight : Int)
  /-- A host rule is skipped because it has no pattern. -/
  | missingPattern (name : Bytes)
  /-- A port rule is skipped because its port is missing or out of range. -/
  | invalidPort (name : Bytes)
  /-- A rule is skipped because nothing is known of its type. -/
  | unknownRule (name kind : Bytes)
  /-- A proxy is kept although its URL cannot be used. -/
  | unusableUrl (name url : Bytes)
  /-- A proxy is dropped because an earlier one has its name. -/
  | duplicateName (name : Bytes)
  /-- A fallback takes the place of an earlier one. -/
  | fallbackReplaced (earlier later : Bytes)
  /-- The configuration in force is given up because a later one could not be used. -/
  | configurationDiscarded
  /-- A flow goes direct because the URL of its proxy cannot be used. -/
  | unroutable (url name : Bytes)
  deriving DecidableEq, Repr

namespace Notice

/-- A text in single quotes. -/
def quoted (text : Bytes) : Bytes := ascii "'" ++ text ++ ascii "'"

/-- A text at the beginning of the lines about one proxy's configuration. -/
def ofProxy (name : Bytes) : Bytes := ascii "[config] Proxy " ++ quoted name

/-- The line without its end. -/
def message : Notice → Bytes
  | loadingDirectory directory =>
    ascii "[config] Loading configuration from directory: " ++ directory
  | missingDirectory directory =>
    ascii "[config] Configuration directory " ++ directory ++ ascii " does not exist"
  | notADirectory directory => ascii "[config] " ++ directory ++ ascii " is not a directory"
  | noConfigFile directory =>
    ascii "[config] No configuration files found in " ++ directory
  | loadingFile source => ascii "[config] Loading configuration from " ++ source
  | loadError source error =>
    ascii "[config] Error loading configuration from " ++ source ++ ascii ": " ++ error.message
  | loaded count source =>
    ascii "[config] Loaded " ++ Decimal.ofNat count ++ ascii " proxy configurations from " ++ source
  | fallbackProxy name => ascii "[config] Default proxy: " ++ name
  | invalidWeight name weight =>
    ascii "[config] Skip proxy " ++ quoted name ++ ascii " due to invalid weight " ++
      Decimal.ofInt weight ++ ascii "."
  | missingPattern name => ofProxy name ++ ascii ": skip host_pattern rule without pattern."
  | invalidPort name => ofProxy name ++ ascii ": skip port rule with invalid port."
  | unknownRule name kind =>
    ofProxy name ++ ascii ": skip rule of unknown type " ++ quoted kind ++ ascii "."
  | unusableUrl name url =>
    ofProxy name ++ ascii " has an unusable url " ++ quoted url ++
      ascii "; flows routed to it will go direct."
  | duplicateName name => ascii "[registry] Skip proxy " ++ quoted name ++ ascii ": duplicate name."
  | fallbackReplaced earlier later =>
    ascii "[registry] Default proxy " ++ quoted earlier ++ ascii " replaced by " ++ quoted later ++
      ascii " (last one wins)."
  | configurationDiscarded =>
    ascii "[config] Previous configuration discarded; " ++
      ascii "routing disabled until the next successful load"
  | unroutable url name =>
    ascii "[upstream] Error parsing proxy URL " ++ url ++ ascii " of " ++ quoted name

/-- The line. -/
def line (notice : Notice) : Bytes := notice.message ++ [0x0A]

/-- The text of a log. -/
def log (notices : List Notice) : Bytes := notices.flatMap line

end Notice

end ProxyRouting

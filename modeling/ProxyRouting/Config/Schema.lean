import ProxyRouting.Config.Document
import ProxyRouting.Notice
import ProxyRouting.Proxy

/-!
# Proxies of a document

The proxies stand in a list under the key `proxies`. An entry needs a name and a URL,
and without one of them the whole document is refused. It may have a weight, which is
1 unless it is an integer, rules, a user and a password. An entry whose weight is below
1 and a rule that makes no sense are skipped with a notice, and an unusable URL is
noticed. No entry has a say in how another one is read.
-/

namespace ProxyRouting.Config

/-! ### Rules -/

/-- The rule of a node, or the notice that it is skipped. -/
def readRule (name : Bytes) (rule : Document) : Except Notice Rule :=
  let kind := (rule.text? (ascii "type")).getD []
  if kind = ascii "host_pattern" then
    match (rule.text? (ascii "pattern")).getD [] with
    | [] => .error (.missingPattern name)
    | pattern => .ok (.hostPattern pattern)
  else if kind = ascii "port" then
    match rule.integer? (ascii "port") with
    | some number =>
      if 1 ≤ number ∧ number ≤ 65535 then .ok (.port (UInt16.ofNat number.toNat))
      else .error (.invalidPort name)
    | none => .error (.invalidPort name)
  else if kind = ascii "default" then .ok .fallback
  else .error (.unknownRule name kind)

/-- The rules of a list of nodes, and the notices about those that are skipped. -/
def readRules (name : Bytes) : List Document → List Rule × List Notice
  | [] => ([], [])
  | rule :: rest =>
    let (rules, notices) := readRules name rest
    match readRule name rule with
    | .ok rule => (rule :: rules, notices)
    | .error notice => (rules, notice :: notices)

/-! ### Entries -/

/-- What an entry comes to: a proxy unless it is skipped, and notices. -/
structure Entry where
  /-- The proxy. -/
  proxy : Option Proxy
  /-- The notices. -/
  notices : List Notice
  deriving DecidableEq, Repr

/-- The nodes under a key. -/
def items (d : Document) (key : Bytes) : List Document :=
  match d.child? key with
  | some list => list.children.map (·.2)
  | none => []

/-- The notice about a proxy whose URL cannot be used. -/
def urlNotices (name url : Bytes) : List Notice :=
  if (Url.parse? url).isSome then [] else [.unusableUrl name url]

/-- Reads an entry that has a name and a URL. -/
def readNamed (name url : Bytes) (entry : Document) : Entry :=
  let weight := (entry.integer? (ascii "weight")).getD 1
  if weight < 1 then ⟨none, [.invalidWeight name weight]⟩
  else
    let (rules, notices) := readRules name (items entry (ascii "rules"))
    { proxy := some {
        name, url, rules
        weight := UInt32.ofNat weight.toNat
        username := entry.text? (ascii "username")
        password := entry.text? (ascii "password") }
      notices := notices ++ urlNotices name url }

/-- Reads an entry, unless it lacks a name or a URL. -/
def readEntry? (entry : Document) : Option Entry :=
  match entry.text? (ascii "name"), entry.text? (ascii "url") with
  | some name, some url => some (readNamed name url entry)
  | _, _ => none

/-- Reads entries of which the first one has this position. -/
def readEntries : Nat → List Document → Except SchemaError (List Proxy) × List Notice
  | _, [] => (.ok [], [])
  | position, entry :: rest =>
    match readEntry? entry with
    | none => (.error (.incompleteEntry position), [])
    | some entry =>
      let (proxies, notices) := readEntries (position + 1) rest
      (proxies.map (entry.proxy.toList ++ ·), entry.notices ++ notices)

/-- Reads the proxies of a document. -/
def readProxies (d : Document) : Except SchemaError (List Proxy) × List Notice :=
  match d.child? (ascii "proxies") with
  | none => (.error .noProxies, [])
  | some list =>
    if list.children.isEmpty && list.text ≠ [] then (.error (.notAList list.text), [])
    else readEntries 1 (list.children.map (·.2))

end ProxyRouting.Config

import ProxyRouting.Text.Integer

/-!
# Configuration documents

A configuration file holds a document: a tree in which every node has a text and
children with keys. A scalar is a text without children; a sequence and a mapping
have children and no text, those of a sequence under the empty key; and a null is
the text `null`. So an empty sequence, an empty mapping and an empty scalar are one
document, and null is the same as the scalar `null`.

Where a key is repeated, its first child counts.
-/

namespace ProxyRouting

/-- A node of a configuration document. -/
inductive Document where
  /-- A node with its text and its children, each under a key. -/
  | node (text : Bytes) (children : List (Bytes × Document))

namespace Document

/-! ### The kinds of values -/

/-- The text of a null. -/
def nullText : Bytes := ascii "null"

/-- The absent value. -/
def null : Document := node nullText []

/-- A text. -/
def scalar (text : Bytes) : Document := node text []

/-- A list of values. -/
def sequence (items : List Document) : Document := node [] (items.map ([], ·))

/-- Values under keys. -/
def mapping (entries : List (Bytes × Document)) : Document := node [] entries

/-! ### Looking into a node -/

/-- The text of a node. -/
def text : Document → Bytes
  | node text _ => text

/-- The children of a node, with their keys. -/
def children : Document → List (Bytes × Document)
  | node _ children => children

/-- The first child under a key. -/
def child? (d : Document) (key : Bytes) : Option Document := d.children.lookup key

/-- The text under a key; a null, and a value that is no text, count as absent. -/
def text? (d : Document) (key : Bytes) : Option Bytes :=
  match d.child? key with
  | some child =>
    if child.children.isEmpty && child.text ≠ nullText then some child.text else none
  | none => none

/-- The integer under a key. -/
def integer? (d : Document) (key : Bytes) : Option Int :=
  match d.child? key with
  | some child => Integer.read? child.text
  | none => none

end Document

end ProxyRouting

import Mathlib.Data.List.Infix
import Mathlib.Tactic.Common

/-!
# XML documents

Elements with attributes and text, the way `ElementTree` writes them, and what an XML 1.0
processor reads: it normalises line ends, refuses every character outside the production
`Char`, and matches tags. The reader covers the declaration, tags, attributes, character data
and the predefined entities, with names of ASCII characters; of a document with comments,
sections, instructions or character references it says nothing.
-/

namespace InfraOps.Xml

abbrev Text := List Char

abbrev Attributes := List (Text × Text)

inductive Node
  | text (chars : Text)
  | element (name : Text) (attributes : Attributes) (children : List Node)

/-! ## Characters -/

/-- The production `Char`. -/
def xmlChar (c : Char) : Bool :=
  c = '\t' || c = '\n' || c = '\r' || (0x20 ≤ c.toNat && c.toNat ≤ 0xD7FF) ||
    (0xE000 ≤ c.toNat && c.toNat ≤ 0xFFFD) || 0x10000 ≤ c.toNat

/-- The production `S`. -/
def space (c : Char) : Bool := c = ' ' || c = '\t' || c = '\n' || c = '\r'

def nameStart (c : Char) : Bool :=
  ('a' ≤ c && c ≤ 'z') || ('A' ≤ c && c ≤ 'Z') || c = '_' || c = ':'

def nameChar (c : Char) : Bool :=
  nameStart c || ('0' ≤ c && c ≤ '9') || c = '-' || c = '.'

/-- Line ends become line feeds; the flag says that a carriage return has just been read. -/
def lineEndsFrom : Bool → Text → Text
  | _, [] => []
  | pair, c :: cs =>
    if c = '\r' then '\n' :: lineEndsFrom true cs
    else if pair ∧ c = '\n' then lineEndsFrom false cs
    else c :: lineEndsFrom false cs

def lineEnds (cs : Text) : Text := lineEndsFrom false cs

/-! ## Writing -/

/-- `_escape_cdata`. -/
def escapeChar (c : Char) : Text :=
  if c = '&' then "&amp;".toList
  else if c = '<' then "&lt;".toList
  else if c = '>' then "&gt;".toList
  else [c]

def escape (text : Text) : Text := text.flatMap escapeChar

/-- Attributes whose values need no escaping. -/
def writeAttributes (attributes : Attributes) : Text :=
  attributes.flatMap fun (name, value) => ' ' :: name ++ '=' :: '"' :: value ++ ['"']

mutual

/-- An element without content is written as one tag. -/
def Node.write : Node → Text
  | .text chars => escape chars
  | .element name attributes [] => '<' :: name ++ writeAttributes attributes ++ " />".toList
  | .element name attributes (child :: children) =>
    '<' :: name ++ writeAttributes attributes ++ '>' :: writeNodes (child :: children) ++
      '<' :: '/' :: name ++ ['>']

def writeNodes : List Node → Text
  | [] => []
  | node :: nodes => node.write ++ writeNodes nodes

end

def declaration : Text := "<?xml version='1.0' encoding='utf-8'?>\n".toList

def writeDocument (root : Node) : Text := declaration ++ root.write

/-! ## The documents considered -/

def plainName : Text → Bool
  | [] => false
  | c :: cs => nameStart c && cs.all nameChar

/-- A character that an attribute's value carries unescaped and unnormalised. -/
def plainChar (c : Char) : Bool :=
  0x20 ≤ c.toNat && c.toNat < 0x7F && c ≠ '"' && c ≠ '&' && c ≠ '<' && c ≠ '>'

def plainAttributes (attributes : Attributes) : Bool :=
  attributes.all (fun (name, value) => plainName name && value.all plainChar) &&
    decide (attributes.map Prod.fst).Nodup

def Node.isText : Node → Bool
  | .text _ => true
  | .element _ _ _ => false

def startsWithText (nodes : List Node) : Bool := nodes.head?.any Node.isText

mutual

/-- Plain names and attributes, no empty text, and no text right after another. -/
def Node.plain : Node → Bool
  | .text chars => chars ≠ []
  | .element name attributes children =>
    plainName name && plainAttributes attributes && plainNodes children

def plainNodes : List Node → Bool
  | [] => true
  | node :: nodes => node.plain && !(node.isText && startsWithText nodes) && plainNodes nodes

end

mutual

def Node.mapText (f : Text → Text) : Node → Node
  | .text chars => .text (f chars)
  | .element name attributes children => .element name attributes (mapTexts f children)

def mapTexts (f : Text → Text) : List Node → List Node
  | [] => []
  | node :: nodes => node.mapText f :: mapTexts f nodes

end

mutual

/-- The texts of an element, in the order of the document. -/
def Node.texts : Node → List Text
  | .text chars => [chars]
  | .element _ _ children => textsOf children

def textsOf : List Node → List Text
  | [] => []
  | node :: nodes => node.texts ++ textsOf nodes

end

/-- Whether every character of the element's texts is allowed. -/
def Node.legal (node : Node) : Bool := node.texts.all fun chars => chars.all xmlChar

/-! ## Places -/

def Node.name? : Node → Option Text
  | .text _ => none
  | .element name _ _ => some name

/-- The text of an element before its first child element. -/
def Node.value : Node → Text
  | .text chars => chars
  | .element _ _ (.text chars :: _) => chars
  | .element _ _ _ => []

def Node.childrenNamed (name : Text) : Node → List Node
  | .text _ => []
  | .element _ _ children => children.filter fun child => child.name? = some name

/-- The texts of the elements reached by following the names from the root. -/
def valuesAt : List Text → Node → List Text
  | [], node => [node.value]
  | name :: path, node => (node.childrenNamed name).flatMap (valuesAt path)

/-! ## Reading -/

def readName (cs : Text) : Option (Text × Text) :=
  match cs.takeWhile nameChar with
  | [] => none
  | c :: name => if nameStart c then some (c :: name, cs.dropWhile nameChar) else none

def entity (name : Text) : Option Char :=
  if name = "amp".toList then some '&'
  else if name = "lt".toList then some '<'
  else if name = "gt".toList then some '>'
  else if name = "quot".toList then some '"'
  else if name = "apos".toList then some '\''
  else none

/-- Character data with its references, the name of one of which may have begun. -/
def unescapeFrom : Option Text → Text → Option Text
  | none, [] => some []
  | some _, [] => none
  | none, c :: cs =>
    if c = '&' then unescapeFrom (some []) cs else (unescapeFrom none cs).map (c :: ·)
  | some name, c :: cs =>
    if c = ';' then
      (entity name).bind fun e => (unescapeFrom none cs).map (e :: ·)
    else unescapeFrom (some (name ++ [c])) cs

def unescape (cs : Text) : Option Text := unescapeFrom none cs

/-- `= "value"`, with the quotes of the writer's choice. -/
def readValue (cs : Text) : Option (Text × Text) :=
  match cs.dropWhile space with
  | '=' :: rest =>
    match rest.dropWhile space with
    | [] => none
    | quote :: rest =>
      if quote = '"' ∨ quote = '\'' then
        let raw := rest.takeWhile (· ≠ quote)
        if '<' ∈ raw then none
        else
          match rest.dropWhile (· ≠ quote) with
          | [] => none
          | _ :: rest =>
            (unescape (raw.map fun c => if space c then ' ' else c)).map fun value => (value, rest)
      else none
  | _ => none

/-- The attributes up to the end of the tag. -/
def readAttributes : Nat → Text → Option (Attributes × Text)
  | 0, _ => none
  | fuel + 1, cs =>
    let rest := cs.dropWhile space
    match rest with
    | [] => none
    | c :: _ =>
      if c = '>' ∨ c = '/' ∨ c = '?' then some ([], rest)
      else if rest = cs then none
      else do
        let (name, rest) ← readName rest
        let (value, rest) ← readValue rest
        let (attributes, rest) ← readAttributes fuel rest
        if (attributes.map Prod.fst).contains name then none
        else return ((name, value) :: attributes, rest)

/-- `</name>`. -/
def readEndTag (name : Text) (cs : Text) : Option Text :=
  match cs with
  | '<' :: '/' :: rest => do
    let (name', rest) ← readName rest
    if name' ≠ name then none
    else
      match rest.dropWhile space with
      | '>' :: rest => return rest
      | _ => none
  | _ => none

/-- Content, up to an end tag or the end of the document. -/
def readNodes : Nat → Text → Option (List Node × Text)
  | 0, _ => none
  | _ + 1, [] => some ([], [])
  | fuel + 1, c :: cs =>
    if c ≠ '<' then
      let raw := (c :: cs).takeWhile (· ≠ '<')
      if "]]>".toList <:+: raw then none
      else do
        let chars ← unescape raw
        let (nodes, rest) ← readNodes fuel ((c :: cs).dropWhile (· ≠ '<'))
        return (.text chars :: nodes, rest)
    else if cs.head? = some '/' then some ([], c :: cs)
    else do
      let (name, rest) ← readName cs
      let (attributes, rest) ← readAttributes (rest.length + 1) rest
      match rest with
      | '/' :: '>' :: rest => do
        let (nodes, rest) ← readNodes fuel rest
        return (.element name attributes [] :: nodes, rest)
      | '>' :: rest => do
        let (children, rest) ← readNodes fuel rest
        let rest ← readEndTag name rest
        let (nodes, rest) ← readNodes fuel rest
        return (.element name attributes children :: nodes, rest)
      | _ => none

/-- The declaration is optional, and begins with the version. -/
def readDeclaration (cs : Text) : Option Text :=
  if "<?xml".toList <+: cs then do
    let (attributes, rest) ← readAttributes (cs.length + 1) (cs.drop 5)
    match attributes, rest with
    | (name, value) :: _, '?' :: '>' :: rest =>
      if name = "version".toList ∧ value = "1.0".toList then return rest else none
    | _, _ => none
  else some cs

/-- What an XML processor reads of a document: its root element, if it is well formed. -/
def readDocument (document : Text) : Option Node := do
  let cs := lineEnds document
  if cs.any fun c => !xmlChar c then none
  else
    let rest ← readDeclaration cs
    let (nodes, rest) ← readNodes (rest.length + 1) (rest.dropWhile space)
    match nodes, rest with
    | [.element name attributes children], [] => return .element name attributes children
    | _, _ => none

end InfraOps.Xml

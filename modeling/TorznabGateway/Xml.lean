/-!
# XML documents

A document is the list of its events: tags with attributes, and texts. Names and structure come
from the program, attribute values and texts from data; the five characters with a meaning in
markup are replaced by entities in both, so data cannot add markup.
-/
namespace TorznabGateway.Xml

/-- One piece of a document. -/
inductive Event where
  /-- The declaration of version 1.0 in UTF-8. -/
  | declaration
  /-- A start tag. -/
  | start (name : String) (attributes : List (String × String))
  /-- A tag without content. -/
  | empty (name : String) (attributes : List (String × String))
  /-- Character data. -/
  | text (s : String)
  /-- An end tag. -/
  | finish (name : String)
  deriving DecidableEq, Repr

/-- The spelling of a character of data. -/
def escapeChar (c : Char) : List Char :=
  if c = '<' then "&lt;".toList
  else if c = '>' then "&gt;".toList
  else if c = '&' then "&amp;".toList
  else if c = '\x27' then "&apos;".toList
  else if c = '"' then "&quot;".toList
  else [c]

/-- The spelling of data. -/
def escape (s : String) : List Char :=
  s.toList.flatMap escapeChar

/-- An attribute with the blank in front of it. -/
def attributeChars (a : String × String) : List Char :=
  ' ' :: a.1.toList ++ '=' :: '"' :: escape a.2 ++ ['"']

/-- The name and attributes of a tag. -/
def tagChars (name : String) (attributes : List (String × String)) : List Char :=
  name.toList ++ attributes.flatMap attributeChars

/-- The characters of an event. -/
def Event.chars : Event → List Char
  | .declaration => "<?xml version=\"1.0\" encoding=\"UTF-8\"?>".toList
  | .start name attributes => '<' :: tagChars name attributes ++ ['>']
  | .empty name attributes => '<' :: tagChars name attributes ++ ['/', '>']
  | .text s => escape s
  | .finish name => '<' :: '/' :: name.toList ++ ['>']

/-- An element that holds a text. -/
def textElement (name s : String) : List Event :=
  [.start name [], .text s, .finish name]

/-- A text element, if there is a text. -/
def optionalElement (name : String) : Option String → List Event
  | some s => textElement name s
  | none => []

/-- An element around other events. -/
def element (name : String) (attributes : List (String × String)) (content : List Event) :
    List Event :=
  .start name attributes :: content ++ [.finish name]

/-- The text of a document. -/
def render (events : List Event) : String :=
  .ofList (events.flatMap Event.chars)

end TorznabGateway.Xml

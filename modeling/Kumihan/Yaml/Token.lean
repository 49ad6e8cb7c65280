import Kumihan.Text.Letter

/-!
# Tokens of YAML

## Main definitions

* `Token`.
-/

namespace Kumihan.Yaml

/-- A directive, which stands before a document. -/
inductive Directive
  /-- The version of YAML that the document asks for. -/
  | version (major minor : Nat)
  /-- A handle of tags and what it stands for. -/
  | handle (name meaning : String)
  /-- A directive without a meaning here. -/
  | other
  deriving DecidableEq, Repr

/-- The smallest parts of a text, and the marks of its structure that only its
indentation shows. -/
inductive Token
  /-- A directive. -/
  | directive (d : Directive)
  /-- The mark before a document. -/
  | documentStart
  /-- The mark behind a document. -/
  | documentEnd
  /-- A list in block style begins. -/
  | blockSequence
  /-- A mapping in block style begins. -/
  | blockMapping
  /-- A list or mapping in block style ends. -/
  | blockEnd
  /-- A list in flow style begins. -/
  | flowSequence
  /-- A mapping in flow style begins. -/
  | flowMapping
  /-- A list in flow style ends. -/
  | flowSequenceEnd
  /-- A mapping in flow style ends. -/
  | flowMappingEnd
  /-- The dash before an entry of a list in block style. -/
  | entry
  /-- The comma behind an entry in flow style. -/
  | comma
  /-- A key follows. -/
  | key
  /-- A value follows. -/
  | value
  /-- A name of a node that stands elsewhere. -/
  | alias (name : String)
  /-- A name for the next node. -/
  | anchor (name : String)
  /-- The tag of the next node: its handle, if it has one, and the rest. -/
  | tag (handle : Option String) (suffix : String)
  /-- A text, and whether it stands there without quotes. -/
  | scalar (text : List Text.Letter) (plain : Bool)
  deriving DecidableEq, Repr

end Kumihan.Yaml

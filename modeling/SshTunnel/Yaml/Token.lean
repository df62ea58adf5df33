/-!
# Tokens of YAML

The tokens of documents in which there is but one mapping and nothing in it but scalars. Tokens of
other documents are not needed, since such documents are refused.
-/

namespace SshTunnel.Yaml

/-- Why a text is no document that is accepted. -/
inductive Fault where
  | control (c : Char)
  | indentation
  | badScalar
  | badEscape
  | badProperty
  | badDirective
  | noColon
  | misplaced
  | nested
  | unknownAnchor
  | manyDocuments
  | notAMapping
  | badField (name : String)
  deriving DecidableEq, Repr

def Fault.message : Fault → String
  | control _ => "control characters are not allowed"
  | indentation => "found a tab character that violates indentation"
  | badScalar => "found an unterminated or misplaced scalar"
  | badEscape => "found unknown escape character"
  | badProperty => "found a malformed anchor or tag"
  | badDirective => "found a malformed directive"
  | noColon => "could not find expected ':'"
  | misplaced => "did not find expected node content"
  | nested => "did not expect a nested collection"
  | unknownAnchor => "unknown anchor"
  | manyDocuments => "expected a single document"
  | notAMapping => "expected a mapping"
  | badField name => s!"invalid field {name}"

/-- The two parts in which a tag is written. -/
structure TagText where
  handle : List Char
  suffix : List Char
  deriving DecidableEq, Repr

inductive Token where
  | versionDirective (major minor : Nat)
  | tagDirective (handle target : List Char)
  | documentStart
  | documentEnd
  | blockStart
  | blockEnd
  | flowStart
  | flowEnd
  | flowEntry
  | key
  | value
  | anchor (name : List Char)
  | alias (name : List Char)
  | tag (text : TagText)
  /-- A scalar, and whether it is written without quotes and indicators. -/
  | scalar (plain : Bool) (text : List Char)
  deriving DecidableEq, Repr

end SshTunnel.Yaml

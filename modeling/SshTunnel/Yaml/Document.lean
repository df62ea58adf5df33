import SshTunnel.Yaml.Tokens

/-!
# Documents with one mapping

`Document.ofText` reads a text that holds at most one document, which is either empty or a mapping
from scalars to scalars. An alias stands for the scalar that its anchor names.
-/

namespace SshTunnel.Yaml

structure Scalar where
  text : String
  /-- Whether it is written without quotes and indicators. -/
  plain : Bool
  tag : Option (List Char)
  deriving DecidableEq, Repr

/-- A key or a value: a scalar, or the number of the anchor that stands for one. -/
inductive Node where
  | scalar (s : Scalar)
  | alias (number : Nat)
  deriving DecidableEq, Repr

/-- A document: its keys with their values, and what its anchors stand for. -/
structure Document where
  entries : List (Node × Node) := []
  /-- What a number stands for; the mapping itself has no scalar. Of two for one number, the first
  counts. -/
  anchors : List (Nat × Option Scalar) := []
  deriving DecidableEq, Repr

namespace Document

def scalar? (d : Document) : Node → Option Scalar
  | .scalar s => some s
  | .alias number => (d.anchors.lookup number).join

structure Reading where
  tokens : List Token
  /-- What the handles of tags stand for. -/
  handles : List (List Char × List Char) := []
  /-- The numbers of the names that anchors give; each name occurs once. -/
  names : List (List Char × Nat) := []
  document : Document := {}
  deriving DecidableEq, Repr

namespace Reading

def skip (r : Reading) : Reading :=
  { r with tokens := r.tokens.tail }

/-- Lets a name stand for a scalar, under the number of names that there are. -/
def bind (r : Reading) (name : Option (List Char)) (s : Option Scalar) : Reading :=
  match name with
  | none => r
  | some name =>
      let number := r.names.length
      { r with
        names := (name, number) :: r.names.filter (·.1 ≠ name)
        document := { r.document with anchors := (number, s) :: r.document.anchors } }

/-- The anchor and the tag before a node, in either order. -/
structure Properties where
  anchor : Option (List Char) := none
  tag : Option (List Char) := none
  deriving DecidableEq, Repr

def properties (r : Reading) : Except Fault (Properties × Reading) :=
  match r.tokens with
  | .anchor name :: .tag t :: rest => do
      pure (⟨some name, some (← t.resolve r.handles)⟩, { r with tokens := rest })
  | .tag t :: .anchor name :: rest => do
      pure (⟨some name, some (← t.resolve r.handles)⟩, { r with tokens := rest })
  | .anchor name :: rest => .ok (⟨some name, none⟩, { r with tokens := rest })
  | .tag t :: rest => do pure (⟨none, some (← t.resolve r.handles)⟩, { r with tokens := rest })
  | _ => .ok ({}, r)

def scalar (r : Reading) (p : Properties) : Except Fault (Node × Reading) :=
  match r.tokens with
  | .scalar plain text :: _ =>
      let s : Scalar := ⟨String.ofList text, plain, p.tag⟩
      .ok (.scalar s, r.skip.bind p.anchor (some s))
  | .blockStart :: _ | .flowStart :: _ => .error .nested
  | _ =>
      if p.anchor = none ∧ p.tag = none then .error .misplaced
      else
        let s : Scalar := ⟨"", true, p.tag⟩
        .ok (.scalar s, r.bind p.anchor (some s))

def node (r : Reading) : Except Fault (Node × Reading) :=
  match r.tokens with
  | .alias name :: rest =>
      match r.names.lookup name with
      | some number => .ok (.alias number, { r with tokens := rest })
      | none => .error .unknownAnchor
  | _ => do
      let (p, r) ← r.properties
      r.scalar p

def missing : Node :=
  .scalar ⟨"", true, none⟩

def nodeUnless (r : Reading) (ends : List Token) : Except Fault (Node × Reading) :=
  match r.tokens with
  | t :: _ => if t ∈ ends then .ok (missing, r) else r.node
  | [] => .ok (missing, r)

def valueUnless (r : Reading) (ends : List Token) : Except Fault (Node × Reading) :=
  match r.tokens with
  | .value :: _ => r.skip.nodeUnless ends
  | _ => .ok (missing, r)

def add (r : Reading) (key value : Node) : Reading :=
  { r with document := { r.document with entries := r.document.entries ++ [(key, value)] } }

def blockEntries (fuel : Nat) (r : Reading) : Except Fault Reading :=
  match fuel with
  | 0 => .error .misplaced
  | fuel + 1 =>
      match r.tokens with
      | .key :: _ => do
          let ends : List Token := [.key, .value, .blockEnd]
          let (key, r) ← r.skip.nodeUnless ends
          let (value, r) ← r.valueUnless ends
          blockEntries fuel (r.add key value)
      | .blockEnd :: _ => .ok r.skip
      | _ => .error .misplaced

/-- Reads the entry of a mapping in braces. Without a question mark, what has no value is a key. -/
def flowEntry (r : Reading) : Except Fault Reading :=
  match r.tokens with
  | .key :: _ => do
      let (key, r) ← r.skip.nodeUnless [.value, .flowEntry, .flowEnd]
      let (value, r) ← r.valueUnless [.flowEntry, .flowEnd]
      pure (r.add key value)
  | _ => do
      let (key, r) ← r.node
      pure (r.add key missing)

/-- Reads the entries of a mapping in braces; all but the first follow a comma. -/
def flowEntries (fuel : Nat) (first : Bool) (r : Reading) : Except Fault Reading :=
  match fuel with
  | 0 => .error .misplaced
  | fuel + 1 =>
      match first, r.tokens with
      | _, .flowEnd :: _ => .ok r.skip
      | true, _ => do flowEntries fuel false (← r.flowEntry)
      | false, .flowEntry :: .flowEnd :: _ => .ok r.skip.skip
      | false, .flowEntry :: _ => do flowEntries fuel false (← r.skip.flowEntry)
      | false, _ => .error .misplaced

def directives (fuel : Nat) (versioned : Bool) (r : Reading) : Except Fault Reading :=
  match fuel with
  | 0 => .error .badDirective
  | fuel + 1 =>
      match r.tokens with
      | .versionDirective major minor :: rest =>
          if versioned ∨ major ≠ 1 ∨ (minor ≠ 1 ∧ minor ≠ 2) then .error .badDirective
          else directives fuel true { r with tokens := rest }
      | .tagDirective handle target :: rest =>
          if (r.handles.lookup handle).isSome then .error .badDirective
          else
            directives fuel versioned
              { r with tokens := rest, handles := r.handles ++ [(handle, target)] }
      | _ => .ok r

def root (r : Reading) : Except Fault Reading := do
  let (p, r) ← r.properties
  match r.tokens with
  | .blockStart :: _ => blockEntries r.tokens.length (r.bind p.anchor none).skip
  | .flowStart :: _ => flowEntries r.tokens.length true (r.bind p.anchor none).skip
  | .scalar _ _ :: _ => throw .notAMapping
  | _ => if p.anchor = none ∧ p.tag = none then throw .misplaced else pure r

def contents (r : Reading) : Except Fault Reading :=
  match r.tokens with
  | [] | .documentStart :: _ | .documentEnd :: _ | .versionDirective _ _ :: _
  | .tagDirective _ _ :: _ => .ok r
  | _ => r.root

def wholeDocument (r : Reading) : Except Fault Reading := do
  match r.tokens with
  | [] => pure r
  | .versionDirective _ _ :: _ | .tagDirective _ _ :: _ | .documentStart :: _ =>
      let r ← r.directives (r.tokens.length + 1) false
      match r.tokens with
      | .documentStart :: _ => r.skip.contents
      | _ => throw .badDirective
  | _ => r.root

end Reading

def ofText (text : String) : Except Fault Document := do
  let found ← tokens text.toList
  let r ← Reading.wholeDocument { tokens := found }
  if r.tokens.all (· = .documentEnd) then pure r.document else throw .manyDocuments

end Document

end SshTunnel.Yaml

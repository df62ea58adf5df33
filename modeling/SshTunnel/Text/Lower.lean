import SshTunnel.Text.LetterCase

/-!
# Lower case

`lower` is the full lower-casing of a text. Two characters need more than the table: a capital I
with a dot becomes two characters, and a capital sigma that ends a word takes its final form.
-/

namespace SshTunnel.Text

def lowerChar (c : Char) : List Char :=
  if c.toNat < 0x80 then [c.toLower]
  else if c = 'İ' then ['i', '\u0307']
  else
    match loweringRuns.findSome? (·.image? c.toNat) with
    | some n => [Char.ofNat n]
    | none => [c]

def meetsCased (s : List Char) : Bool :=
  match s.dropWhile fun c => isInside caseIgnorableEdges c.toNat with
  | [] => false
  | c :: _ => isInside casedEdges c.toNat

/-- Whether a sigma with the given text before it, read backwards, and after it ends a word. -/
def endsWord (before after : List Char) : Bool :=
  meetsCased before && !meetsCased after

/-- Lower-casing of the rest of a text; `before` is what precedes it, read backwards. -/
def lowerFrom (before : List Char) : List Char → List Char
  | [] => []
  | c :: s =>
      (if c = 'Σ' then [if endsWord before s then 'ς' else 'σ'] else lowerChar c) ++
        lowerFrom (c :: before) s

/-- The lower-case form of a text. -/
def lower (s : List Char) : List Char :=
  lowerFrom [] s

def lowerString (s : String) : String :=
  String.ofList (lower s.toList)

@[simp] theorem lower_nil : lower [] = [] := rfl

theorem lowerFrom_cons (before : List Char) (c : Char) (s : List Char) :
    lowerFrom before (c :: s) =
      (if c = 'Σ' then [if endsWord before s then 'ς' else 'σ'] else lowerChar c) ++
        lowerFrom (c :: before) s := rfl

theorem lowerChar_of_ascii {c : Char} (h : c.toNat < 0x80) : lowerChar c = [c.toLower] := by
  simp [lowerChar, h]

end SshTunnel.Text

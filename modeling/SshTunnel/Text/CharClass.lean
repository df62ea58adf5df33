/-!
# Character classes by their edges

A class of characters is given by its edges: the ascending code points at which membership
changes, the first edge being the first member. `isInside` reads such a table. The tables are those
of the Unicode character database for the classes that quoting and lower-casing ask about.
-/

namespace SshTunnel.Text

/-- Membership in the class with the given edges: a code point is inside iff an odd number of edges
lies at or below it. -/
def isInside : List Nat → Nat → Bool
  | [], _ => false
  | e :: es, n => if n < e then false else !isInside es n

@[simp] theorem isInside_nil (n : Nat) : isInside [] n = false := rfl

theorem isInside_cons_of_lt {e n : Nat} (es : List Nat) (h : n < e) :
    isInside (e :: es) n = false := by
  simp [isInside, h]

end SshTunnel.Text

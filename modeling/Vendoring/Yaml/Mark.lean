/-!
# Places in a YAML text

A place is told by how many characters come before it, and by its line and column. All of them
count from zero and are shown counting from one. A carriage return and a line feed that follow one
another are one line break and two characters.
-/

set_option autoImplicit false

namespace Vendoring.Yaml

/-- A place in a text. -/
structure Mark where
  index : Nat
  line : Nat
  column : Nat
  deriving DecidableEq, Repr

namespace Mark

/-- The start of a text. -/
def start : Mark := ⟨0, 0, 0⟩

/-- The place behind one character that is not a line break. -/
def next (m : Mark) : Mark := ⟨m.index + 1, m.line, m.column + 1⟩

/-- The place behind some characters of which none is a line break. -/
def nextBy (m : Mark) (count : Nat) : Mark := ⟨m.index + count, m.line, m.column + count⟩

@[simp] theorem nextBy_zero (m : Mark) : m.nextBy 0 = m := rfl

theorem nextBy_succ (m : Mark) (count : Nat) : m.nextBy (count + 1) = m.next.nextBy count := by
  simp [nextBy, next, Nat.add_assoc, Nat.add_comm count 1]

/-- The place behind a line break that takes `size` characters. -/
def nextLine (m : Mark) (size : Nat) : Mark := ⟨m.index + size, m.line + 1, 0⟩

/-- Is this the first place of the first line? Messages do not show it. -/
def isFirst (m : Mark) : Bool := m.line = 0 && m.column = 0

/-- Do two places show alike? -/
def sameSpot (m n : Mark) : Bool := m.line = n.line && m.column = n.column

/-- The words for a place at the end of a message. -/
def suffix (m : Mark) : String :=
  if m.isFirst then ""
  else " at line " ++ toString (m.line + 1) ++ " column " ++ toString (m.column + 1)

end Mark

end Vendoring.Yaml

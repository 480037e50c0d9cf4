import ProtocolBindings.Text.Printable.Table

/-!
# Printable characters

Whether a character has a printed form of its own, so that it may stand for itself in a quoted
text.
-/

namespace ProtocolBindings.Text

/-- Whether a character has a printed form; the ordinary space counts as one. -/
def isPrintable (c : Char) : Bool :=
  !unprintableTable.contains c.toNat

end ProtocolBindings.Text

import BattlePilot.Text.Lines

/-!
What can be read from files.
-/

namespace BattlePilot

inductive FileError where
  | notFound
  | isDirectory
  /-- The path leads on from a file. -/
  | notDirectory
  /-- The bytes are no text. -/
  | invalidData
  deriving DecidableEq, Repr

/-- Why a document cannot be used; `ε` says what is wrong with what it asks for. -/
inductive DocumentError (ε : Type) where
  | file (fault : FileError)
  /-- No document of the form that is read here. -/
  | malformed
  | invalid (fault : ε)
  deriving DecidableEq, Repr

namespace Text

/-- The text of a file with these bytes. -/
def ofBytes (bytes : ByteArray) : Except FileError String :=
  match String.fromUTF8? bytes with
  | some text => .ok text
  | none => .error .invalidData

end Text
end BattlePilot

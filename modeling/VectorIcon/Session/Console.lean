import VectorIcon.Error

/-!
The error console of a session.
-/

namespace VectorIcon

/-- The last error, and whether the console is open. An error opens it, and it stays open until it
is closed. -/
structure Console where
  error : Option ConvertError
  isOpen : Bool
  deriving DecidableEq

namespace Console

def initial : Console :=
  ⟨none, false⟩

def report (_ : Console) (error : ConvertError) : Console :=
  ⟨some error, true⟩

def dismiss (console : Console) : Console :=
  { console with error := none }

def reveal (console : Console) : Console :=
  { console with isOpen := true }

def close (console : Console) : Console :=
  { console with isOpen := false }

def message (console : Console) : Option String :=
  console.error.map ConvertError.message

def isPending (console : Console) : Bool :=
  console.error.isSome

end Console

end VectorIcon

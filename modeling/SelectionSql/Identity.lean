/-!
# Identities

Who is asking: a name and the rules that are granted. Nobody in particular is the guest.
-/
set_option autoImplicit false

namespace SelectionSql

/-- Who is asking. -/
structure Identity where
  name : String
  rules : List String
deriving DecidableEq, Repr

namespace Identity

/-- The guest's name, which is also its rule. -/
def guestName : String := "guest"

def guest : Identity := ⟨guestName, [guestName]⟩

instance : Inhabited Identity := ⟨guest⟩

/-- The guest by name, with no other rule than the guest's. -/
def isGuest (i : Identity) : Bool := i.name == guestName && i.rules.all fun r => r == guestName

def hasRule (i : Identity) (rule : String) : Bool := i.rules.contains rule

end Identity
end SelectionSql

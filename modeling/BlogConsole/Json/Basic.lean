import BlogConsole.Number.Double

/-!
JSON values. A whole number has any size, other numbers have double precision, and the members of
an object keep their order.
-/

namespace BlogConsole

inductive Json
  | null
  | bool (b : Bool)
  | int (n : Int)
  | float (x : Double)
  | string (s : String)
  | array (items : List Json)
  | object (members : List (String × Json))
  deriving BEq, Repr, Inhabited

namespace Json

def member? (members : List (String × Json)) (name : String) : Option Json :=
  members.lookup name

def get? : Json → String → Option Json
  | object members, name => member? members name
  | _, _ => none

/-- Gives a name a value: in its old place if the name is there, else at the end. -/
def putMember (name : String) (value : Json) : List (String × Json) → List (String × Json)
  | [] => [(name, value)]
  | (n, v) :: rest =>
    if n = name then (name, value) :: rest else (n, v) :: putMember name value rest

/-- The object of members given one after the other. Of two values for one name the later stays. -/
def ofMembers (members : List (String × Json)) : Json :=
  object (members.foldl (fun acc m => putMember m.1 m.2 acc) [])

def ofOption : Option String → Json
  | some s => string s
  | none => null

end Json

end BlogConsole

namespace EntityDiagram

inductive Json
  | null
  | bool (value : Bool)
  | int (value : Int)
  | float (value : Float)
  | text (value : String)
  | array (items : List Json)
  | object (entries : List (String × Json))
  deriving Inhabited

namespace Json

def ofText? : Option String → Json
  | some t => text t
  | none => null

def ofTexts (ts : List String) : Json := array (ts.map text)

end Json

end EntityDiagram

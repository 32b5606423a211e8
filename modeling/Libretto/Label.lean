/-! Names of code objects as people read them. -/
namespace Libretto.Label

def isLower (c : Char) : Bool := 'a' ≤ c && c ≤ 'z'
def isUpper (c : Char) : Bool := 'A' ≤ c && c ≤ 'Z'

/-- A space between a lower-case and an upper-case ASCII letter. -/
def space : List Char → List Char
  | a :: b :: rest =>
    if isLower a && isUpper b then a :: ' ' :: space (b :: rest) else a :: space (b :: rest)
  | text => text

def spaced (name : String) : String := String.ofList (space name.toList)

end Libretto.Label

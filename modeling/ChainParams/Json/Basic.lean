import ChainParams.Decimal.Binary64

/-!
# JSON values

Integers are told from floats, as the two are read differently: an integer stands without point and
exponent and fits into 64 bits. The members of an object come in the order in which they are
written; an object that was read has its keys in ascending order and each only once, so that it
depends neither on the order of its members in the text nor on a member that a later one replaced.
-/

namespace ChainParams

inductive Json where
  | null
  | bool (value : Bool)
  | int (value : Int)
  | float (negative : Bool) (magnitude : Decimal.Binary64)
  | str (value : String)
  | arr (items : List Json)
  | obj (members : List (String × Json))

namespace Json

/-- Puts a member into a list with ascending keys, in place of one with the same key. -/
def insertMember (key : String) (value : Json) : List (String × Json) → List (String × Json)
  | [] => [(key, value)]
  | member :: rest =>
    if key < member.1 then (key, value) :: member :: rest
    else if key = member.1 then (key, value) :: rest
    else member :: insertMember key value rest

/-- The members with ascending keys; of several with one key the last counts. -/
def sortMembers (members : List (String × Json)) : List (String × Json) :=
  members.foldl (fun sorted member ↦ insertMember member.1 member.2 sorted) []

/-- The value of a member of an object. -/
def get? (key : String) : Json → Option Json
  | .obj members => members.lookup key
  | _ => none

end Json

end ChainParams

import ChainParams.Proofs.Definition.RoundTrip
import ChainParams.Proofs.Json.Array

/-!
# Lists of definitions

A list of definitions is gone through twice. The first definition that cannot be read decides, even
if a network before it is not valid; only if all of them are read, the first network that is not
valid decides. A definition that stands alone comes to the same as in a list of its own.
-/

namespace ChainParams.Definition

/-- What becomes of a list of definitions. -/
inductive Yields : List Json → Except Error (List Network) → Prop
  /-- The first definition that cannot be read decides, whatever the networks before it. -/
  | unreadable {before rest : List Json} {definition : Json} {error : Error}
      (hbefore : ∀ earlier ∈ before, ∃ network, readNetwork earlier = .ok network)
      (herror : readNetwork definition = .error error) :
      Yields (before ++ definition :: rest) (.error error)
  /-- The definitions can all be read, and the first network that is not valid decides. -/
  | invalid {definitions : List Json} {before rest : List Network} {network : Network}
      {fault : Network.Fault}
      (hdefines : Defines (.arr definitions) (before ++ network :: rest))
      (hbefore : ∀ earlier ∈ before, earlier.validate = .ok ())
      (hfault : network.validate = .error fault) :
      Yields definitions (.error (.network fault))
  | valid {definitions : List Json} {networks : List Network}
      (hdefines : Defines (.arr definitions) networks)
      (hvalid : ∀ network ∈ networks, network.validate = .ok ()) :
      Yields definitions (.ok networks)

end ChainParams.Definition

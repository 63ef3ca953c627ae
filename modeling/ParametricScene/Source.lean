/-!
# Sources of values

A place in a document where a value is expected holds a number, a boolean or the text of a formula.
-/

namespace ParametricScene

/-- A number or boolean that stands for itself, or a formula. -/
inductive Source where
  | number (n : Float)
  | boolean (b : Bool)
  | formula (text : String)
deriving Inhabited

end ParametricScene

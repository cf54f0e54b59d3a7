import Clausal.Expression.Applied

/-!
# Building expressions

Every shape has a rule that makes an expression of parts, and the rule may give
an expression of another shape: a comparison of two numbers is a truth value, and
a sum of numbers is a number. When a part of an expression is replaced, the
expressions around it are built anew. What has no simple value has none here.
-/

namespace Clausal.Expression

def built? : Shape → List Expression → Option Expression
  | .and, parts => some (joinAll .and parts)
  | .or, parts => some (joinAll .or parts)
  | .not, [e] => some e.negate
  | .implies, [d, e] => some (implication d e)
  | .comparison c, [d, e] => some (related c d e)
  | .sum, parts => some (sum parts)
  | .product, parts => some (product parts)
  | .power, [base, exponent] => some (power base exponent)
  | .known function, parts => applied? function parts
  | shape, parts => some (.compound shape parts)

mutual

/-- An expression with an expression put in for another one everywhere. What is
put in is not looked at again. -/
def replace? (old new : Expression) (e : Expression) : Option Expression :=
  if e = old then some new
  else
    match e with
    | .app name args => do
        let args ← replaceAll? old new args
        some (.app name args)
    | .compound shape parts => do
        let replaced ← replaceAll? old new parts
        if replaced = parts then some (.compound shape parts) else built? shape replaced
    | e => some e

/-- The expressions of a list with an expression put in for another one. -/
def replaceAll? (old new : Expression) : List Expression → Option (List Expression)
  | [] => some []
  | e :: es => do
      let e ← replace? old new e
      let es ← replaceAll? old new es
      some (e :: es)

end

end Clausal.Expression

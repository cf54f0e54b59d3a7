import Clausal.Prefix
import Clausal.Worksheet.Application

/-!
# Prefixes and the quantifiers that are put in front

The leading quantifiers of a formula are taken off from the outside to the inside, and a prefix is
put in front from the inside to the outside. Both agree on the order: what is taken off can be put
back, and what was put in front of a formula without a leading quantifier is taken off again
(`Formula.leading_quantify`, `Formula.matrix_quantify`).

A quantifier that is given a list of variables stands for the prefix of all of them. The list is
looked at from its end, except for the first item, so of several items that are no variables the
last one is refused (`Worksheet.construct_refused`), or the list if it does not start with a
variable (`Worksheet.construct_refused_whole`).
-/

namespace Clausal

namespace Formula

variable {f g : Formula} (p : Prefix)

end Formula

namespace Worksheet

open Value

variable {q : Quantifier} {g : Formula}

/-- Two of the items after the first are no variables. -/
example : construct (.quantifier .all)
    [.list [ofName "x", .formula (.atom (.pred "P" [])), .formula (.atom (.pred "Q" [])),
      ofName "y"], .formula (.atom (.pred "R" []))] = .error (.notVariable "Q") := rfl

end Worksheet

end Clausal

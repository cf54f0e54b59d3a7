import Clausal.Worksheet.Value

/-!
# Equality of values

Values are the same when they are of one kind and equal. An expression is also
the same as the plain value that it stands for, and a group of expressions the
same as a tuple of values that are the same one by one.
-/

namespace Clausal

/-- A number stands for an equal plain number of its kind, and an integer also
for a truth value, which counts as one or zero. -/
def Expression.standsFor : Expression → Scalar → Bool
  | .number q, .int n => q = n
  | .number q, .truth b => q = if b then 1 else 0
  | .truth b, .truth c => b = c
  | .approximate x, .floating y => x.value = y.toRat
  | .nothing, .null => true
  | _, _ => false

namespace Worksheet.Value

mutual

/-- A value is the same as an expression. -/
def sameAs : Value → Expression → Bool
  | .scalar s, e => e.standsFor s
  | .expression d, e => d = e
  | .tuple items, .compound .tuple parts => sameParts items parts
  | .list items, .compound .list parts => sameParts items parts
  | _, _ => false

/-- The values of a list are the same as expressions, one by one. -/
def sameParts : List Value → List Expression → Bool
  | [], [] => true
  | v :: vs, e :: es => v.sameAs e && sameParts vs es
  | _, _ => false

end

mutual

/-- Two values are the same. -/
def same : Value → Value → Bool
  | v, .expression e => v.sameAs e
  | .expression e, v => v.sameAs e
  | .scalar a, .scalar b => a.same b
  | .formula f, .formula g => f = g
  | .binders as, .binders bs => sameItems as bs
  | .literal a m, .literal b n => a.same b && m.same n
  | .operator o, .operator u => o = u
  | .skolem f ps xs, .skolem g qs ys => f = g && samePairs ps qs && sameItems xs ys
  | .horn r, .horn t => r = t
  | .list as, .list bs => sameItems as bs
  | .tuple as, .tuple bs => sameItems as bs
  | .set as, .set bs => as.length = bs.length && areAmong as bs
  | .record as, .record bs => as.length = bs.length && sameFields as bs
  | .thing p, .thing q => p = q
  | .procedure name _, .procedure other _ => name = other
  | _, _ => false

/-- Lists are the same when they have the same items in order. -/
def sameItems : List Value → List Value → Bool
  | [], [] => true
  | a :: as, b :: bs => a.same b && sameItems as bs
  | _, _ => false

/-- Every item of a list is the same as an item of another one. -/
def areAmong : List Value → List Value → Bool
  | [], _ => true
  | a :: as, bs => bs.any a.same && areAmong as bs

/-- Pairs of values and their replacements are the same. -/
def samePairs : List (Value × Expression) → List (Value × Expression) → Bool
  | [], [] => true
  | (v, d) :: ps, (w, e) :: qs => v.same w && d = e && samePairs ps qs
  | _, _ => false

/-- Every field has the same value as the field with its key. -/
def sameFields : List (String × Value) → List (String × Value) → Bool
  | [], _ => true
  | (key, v) :: fields, others =>
      match others.lookup key with
      | some w => v.same w && sameFields fields others
      | none => false

end

end Worksheet.Value

end Clausal

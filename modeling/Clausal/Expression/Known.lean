import Clausal.Expression.Kind

/-!
# Known names

Some names stand for something else than a symbol of their own: for numbers and
sets, for functions, for kinds of expressions, and for what is no expression at
all, such as the procedures that work on expressions. All other names are
symbols.
-/

namespace Clausal

/-- What a known name stands for. -/
inductive Known where
  | expression (e : Expression)
  /-- Something that is no expression, with the full name of its class. -/
  | thing (path : String)

namespace Known

/-- The function whose value is its argument. -/
def identity : Expression :=
  .compound (.known "Lambda") [.compound .tuple [.sym "_x"], .sym "_x"]

/-- The numbers, truth values and functions with names. -/
def constants : List (String × Expression) :=
  [("E", .constant .euler), ("I", .constant .imaginary), ("pi", .constant .pi),
    ("oo", .constant .infinity), ("zoo", .constant .complexInfinity),
    ("nan", .constant .undefined), ("GoldenRatio", .constant .goldenRatio),
    ("EulerGamma", .constant .eulerGamma), ("Catalan", .constant .catalan),
    ("TribonacciConstant", .constant .tribonacci), ("true", .truth true),
    ("false", .truth false), ("ord0", .number 0), ("Id", identity)]

def domains : List String :=
  ["EmptySet", "UniversalSet", "Naturals", "Naturals0", "Integers", "Rationals", "Reals",
    "Complexes"]

def functions : List String := [
    "Function", "WildFunction", "Mod", "And", "Or", "Not", "Xor", "Nand", "Nor", "Implies",
    "Equivalent", "ITE", "factorial", "factorial2", "RisingFactorial", "FallingFactorial",
    "binomial", "subfactorial", "carmichael", "fibonacci", "lucas", "motzkin", "tribonacci",
    "harmonic", "bernoulli", "bell", "euler", "catalan", "genocchi", "andre", "partition",
    "divisor_sigma", "udivisor_sigma", "legendre_symbol", "jacobi_symbol", "kronecker_symbol",
    "mobius", "primenu", "primeomega", "totient", "primepi", "reduced_totient", "Min", "Max",
    "Rem", "re", "im", "sign", "Abs", "conjugate", "arg", "polar_lift", "periodic_argument",
    "principal_branch", "transpose", "adjoint", "sin", "cos", "tan", "sec", "csc", "cot", "sinc",
    "asin", "acos", "atan", "asec", "acsc", "acot", "atan2", "exp_polar", "exp", "log", "LambertW",
    "sinh", "cosh", "tanh", "coth", "sech", "csch", "asinh", "acosh", "atanh", "acoth", "asech",
    "acsch", "floor", "ceiling", "frac", "Piecewise", "erf", "erfc", "erfi", "erf2", "erfinv",
    "erfcinv", "erf2inv", "Ei", "expint", "li", "Li", "Si", "Ci", "Shi", "Chi", "fresnels",
    "fresnelc", "gamma", "lowergamma", "uppergamma", "polygamma", "loggamma", "digamma",
    "trigamma", "multigamma", "dirichlet_eta", "zeta", "lerchphi", "polylog", "stieltjes",
    "LeviCivita", "KroneckerDelta", "SingularityFunction", "DiracDelta", "Heaviside", "besselj",
    "bessely", "besseli", "besselk", "hankel1", "hankel2", "jn", "yn", "hn1", "hn2", "airyai",
    "airybi", "airyaiprime", "airybiprime", "marcumq", "hyper", "meijerg", "appellf1", "legendre",
    "assoc_legendre", "hermite", "hermite_prob", "chebyshevt", "chebyshevu", "chebyshevu_root",
    "chebyshevt_root", "laguerre", "assoc_laguerre", "gegenbauer", "jacobi", "Ynm", "Znm",
    "elliptic_k", "elliptic_f", "elliptic_e", "elliptic_pi", "beta", "betainc",
    "betainc_regularized", "mathieus", "mathieuc", "mathieusprime", "mathieucprime", "riemann_xi",
    "MellinTransform", "InverseMellinTransform", "LaplaceTransform", "InverseLaplaceTransform",
    "FourierTransform", "InverseFourierTransform", "SineTransform", "InverseSineTransform",
    "CosineTransform", "InverseCosineTransform", "HankelTransform", "InverseHankelTransform"]

/-- The kinds of expressions, by the places they belong to. -/
def families : List (String × List String) := [
    ("sympy.core.basic", ["Basic", "Atom"]),
    ("sympy.core.expr", ["Expr", "AtomicExpr", "UnevaluatedExpr"]),
    ("sympy.core.symbol", ["Symbol", "Wild", "Dummy"]),
    ("sympy.core.numbers",
      ["Number", "Float", "Rational", "Integer", "NumberSymbol", "AlgebraicNumber"]),
    ("sympy.core.power", ["Pow"]),
    ("sympy.core.mul", ["Mul"]),
    ("sympy.core.add", ["Add"]),
    ("sympy.core.relational",
      ["Relational", "Equality", "Unequality", "StrictLessThan", "LessThan", "StrictGreaterThan",
        "GreaterThan"]),
    ("sympy.core.function", ["Lambda", "Derivative", "Subs"]),
    ("sympy.core.containers", ["Tuple", "Dict"]),
    ("sympy.assumptions.assume", ["AppliedPredicate", "Predicate"]),
    ("sympy.polys.polytools", ["Poly", "PurePoly", "GroebnerBasis"]),
    ("sympy.polys.rootoftools", ["RootOf", "ComplexRootOf", "RootSum"]),
    ("sympy.series.order", ["Order"]),
    ("sympy.series.limits", ["Limit"]),
    ("sympy.series.sequences", ["EmptySequence", "SeqPer", "SeqFormula", "SeqAdd", "SeqMul"]),
    ("sympy.sets.sets",
      ["Set", "Interval", "Union", "FiniteSet", "ProductSet", "Intersection", "Complement",
        "SymmetricDifference", "DisjointUnion"]),
    ("sympy.sets.fancysets", ["ImageSet", "Range", "ComplexRegion"]),
    ("sympy.sets.contains", ["Contains"]),
    ("sympy.sets.conditionset", ["ConditionSet"]),
    ("sympy.sets.ordinals", ["Ordinal", "OmegaPower"]),
    ("sympy.sets.powerset", ["PowerSet"]),
    ("sympy.concrete.products", ["Product"]),
    ("sympy.concrete.summations", ["Sum"]),
    ("sympy.integrals.integrals", ["Integral"]),
    ("sympy.matrices.immutable", ["ImmutableDenseMatrix", "ImmutableSparseMatrix"]),
    ("sympy.matrices.expressions.matexpr", ["MatrixExpr", "MatrixSymbol"]),
    ("sympy.matrices.expressions.special", ["Identity", "ZeroMatrix", "OneMatrix"]),
    ("sympy.matrices.expressions.trace", ["Trace"]),
    ("sympy.matrices.expressions.transpose", ["Transpose"]),
    ("sympy.matrices.expressions.inverse", ["Inverse"]),
    ("sympy.matrices.expressions.adjoint", ["Adjoint"]),
    ("sympy.matrices.expressions.determinant", ["Determinant", "Permanent"]),
    ("sympy.matrices.expressions.matadd", ["MatAdd"]),
    ("sympy.matrices.expressions.matmul", ["MatMul"]),
    ("sympy.matrices.expressions.matpow", ["MatPow"]),
    ("sympy.matrices.expressions.blockmatrix", ["BlockMatrix", "BlockDiagMatrix"]),
    ("sympy.matrices.expressions.funcmatrix", ["FunctionMatrix"]),
    ("sympy.matrices.expressions.hadamard", ["HadamardProduct", "HadamardPower"]),
    ("sympy.matrices.expressions.diagonal", ["DiagMatrix", "DiagonalMatrix", "DiagonalOf"]),
    ("sympy.matrices.expressions.dotproduct", ["DotProduct"]),
    ("sympy.matrices.expressions.kronecker", ["KroneckerProduct"]),
    ("sympy.matrices.expressions.permutation", ["PermutationMatrix", "MatrixPermute"]),
    ("sympy.matrices.expressions.slice", ["MatrixSlice"]),
    ("sympy.tensor.array.dense_ndim_array", ["ImmutableDenseNDimArray"]),
    ("sympy.tensor.array.sparse_ndim_array", ["ImmutableSparseNDimArray"]),
    ("sympy.geometry.point", ["Point", "Point2D", "Point3D"]),
    ("sympy.geometry.line",
      ["Line", "Ray", "Segment", "Line2D", "Segment2D", "Ray2D", "Line3D", "Segment3D", "Ray3D"]),
    ("sympy.geometry.plane", ["Plane"]),
    ("sympy.geometry.ellipse", ["Ellipse", "Circle"]),
    ("sympy.geometry.polygon", ["Polygon", "RegularPolygon", "Triangle"]),
    ("sympy.geometry.curve", ["Curve"]),
    ("sympy.geometry.parabola", ["Parabola"]),
    ("sympy.tensor.indexed", ["IndexedBase", "Idx", "Indexed"]),
    ("sympy.calculus.accumulationbounds", ["AccumulationBounds"]),
    ("sympy.algebras.quaternion", ["Quaternion"])]

def aliases : List (String × String) := [
    ("ln", "log"), ("rf", "RisingFactorial"), ("ff", "FallingFactorial"), ("max", "Max"),
    ("min", "Min"), ("Rel", "Relational"), ("Eq", "Equality"), ("Ne", "Unequality"),
    ("Lt", "StrictLessThan"), ("Le", "LessThan"), ("Gt", "StrictGreaterThan"),
    ("Ge", "GreaterThan"), ("RealNumber", "Float"), ("O", "Order"), ("CRootOf", "ComplexRootOf"),
    ("AccumBounds", "AccumulationBounds"), ("ImmutableMatrix", "ImmutableDenseMatrix"),
    ("Array", "ImmutableDenseNDimArray")]

def procedures : List String := [
    "sympify", "cacheit", "symbols", "var", "igcd", "ilcm", "seterr", "comp", "mod_inverse",
    "integer_nthroot", "integer_log", "trailing", "prod", "diff", "expand", "count_ops",
    "expand_mul", "expand_log", "expand_func", "expand_trig", "expand_complex",
    "expand_multinomial", "nfloat", "expand_power_base", "expand_power_exp", "arity", "N",
    "gcd_terms", "factor_terms", "factor_nc", "evaluate", "bottom_up", "use", "default_sort_key",
    "ordered", "num_digits", "to_cnf", "to_dnf", "to_nnf", "POSform", "SOPform", "simplify_logic",
    "bool_map", "satisfiable", "assuming", "ask", "register_handler", "remove_handler", "refine",
    "poly_from_expr", "parallel_poly_from_expr", "degree", "total_degree", "degree_list", "LC",
    "LM", "LT", "pdiv", "prem", "pquo", "pexquo", "div", "rem", "quo", "exquo", "half_gcdex",
    "gcdex", "invert", "subresultants", "resultant", "discriminant", "cofactors", "gcd_list",
    "gcd", "lcm_list", "lcm", "terms_gcd", "trunc", "monic", "content", "primitive", "compose",
    "decompose", "sturm", "gff_list", "gff", "sqf_norm", "sqf_part", "sqf_list", "sqf",
    "factor_list", "factor", "intervals", "refine_root", "count_roots", "all_roots", "real_roots",
    "nroots", "ground_roots", "nth_power_roots_poly", "cancel", "reduced", "groebner",
    "is_zero_dimensional", "poly", "symmetrize", "horner", "interpolate", "rational_interpolate",
    "viete", "together", "minpoly", "minimal_polynomial", "primitive_element", "field_isomorphism",
    "to_number_field", "isolate", "round_two", "prime_decomp", "prime_valuation", "galois_group",
    "itermonomials", "rootof", "roots", "construct_domain", "swinnerton_dyer_poly",
    "cyclotomic_poly", "symmetric_poly", "random_poly", "interpolating_poly", "jacobi_poly",
    "chebyshevt_poly", "chebyshevu_poly", "hermite_poly", "hermite_prob_poly", "legendre_poly",
    "laguerre_poly", "apart", "apart_list", "assemble_partfrac_list", "ring", "xring", "vring",
    "sring", "field", "xfield", "vfield", "sfield", "limit", "gruntz", "series", "approximants",
    "residue", "sequence", "fourier_series", "fps", "difference_delta", "limit_seq", "sqrt",
    "root", "cbrt", "real_root", "unbranched_argument", "polarify", "unpolarify", "piecewise_fold",
    "piecewise_exclusive", "E1", "Eijk", "bspline_basis", "bspline_basis_set",
    "interpolating_spline", "jn_zeros", "jacobi_normalized", "Ynm_c", "nextprime", "prevprime",
    "prime", "primerange", "randprime", "primorial", "cycle_length", "composite", "compositepi",
    "isprime", "divisors", "proper_divisors", "factorint", "multiplicity", "perfect_power",
    "pollard_pm1", "pollard_rho", "primefactors", "divisor_count", "proper_divisor_count",
    "factorrat", "mersenne_prime_exponent", "is_perfect", "is_abundant", "is_deficient",
    "is_amicable", "is_carmichael", "abundance", "npartitions", "is_primitive_root",
    "is_quad_residue", "n_order", "sqrt_mod", "quadratic_residues", "primitive_root",
    "nthroot_mod", "is_nthpow_residue", "sqrt_mod_iter", "discrete_log", "quadratic_congruence",
    "binomial_coefficients", "binomial_coefficients_list", "multinomial_coefficients",
    "continued_fraction_periodic", "continued_fraction_iterator", "continued_fraction_reduce",
    "continued_fraction_convergents", "continued_fraction", "egyptian_fraction", "product",
    "summation", "fft", "ifft", "ntt", "intt", "fwht", "ifwht", "mobius_transform",
    "inverse_mobius_transform", "convolution", "covering_product", "intersecting_product",
    "simplify", "hypersimp", "hypersimilar", "logcombine", "separatevars", "posify", "besselsimp",
    "kroneckersimp", "signsimp", "nsimplify", "fu", "sqrtdenest", "cse", "epath", "hyperexpand",
    "collect", "rcollect", "radsimp", "collect_const", "fraction", "numer", "denom", "trigsimp",
    "exptrigsimp", "powsimp", "powdenest", "combsimp", "gammasimp", "ratsimp", "ratsimpmodprime",
    "imageset", "solve", "solve_linear_system", "solve_linear_system_LU",
    "solve_undetermined_coeffs", "nsolve", "solve_linear", "checksol", "det_quick", "inv_quick",
    "check_assumptions", "failing_assumptions", "diophantine", "rsolve", "rsolve_poly",
    "rsolve_ratio", "rsolve_hyper", "checkodesol", "classify_ode", "dsolve", "homogeneous_order",
    "solve_poly_system", "solve_triangulated", "pde_separate", "pde_separate_add",
    "pde_separate_mul", "pdsolve", "classify_pde", "checkpdesol", "ode_order",
    "reduce_inequalities", "reduce_abs_inequality", "reduce_abs_inequalities",
    "solve_poly_inequality", "solve_rational_inequalities", "solve_univariate_inequality",
    "decompogen", "solveset", "linsolve", "linear_eq_to_matrix", "nonlinsolve", "substitution",
    "GramSchmidt", "casoratian", "diag", "eye", "hessian", "jordan_cell",
    "matrix_multiply_elementwise", "ones", "randMatrix", "rot_axis1", "rot_axis2", "rot_axis3",
    "symarray", "wronskian", "zeros", "banded", "blockcut", "block_collapse", "matrix_symbols",
    "hadamard_product", "det", "diagonalize_vector", "trace", "kronecker_product", "per", "rad",
    "deg", "are_similar", "centroid", "convex_hull", "idiff", "intersection", "closest_points",
    "farthest_points", "flatten", "group", "take", "subsets", "variations", "numbered_symbols",
    "cartes", "capture", "dict_merge", "prefixes", "postfixes", "sift", "topological_sort",
    "unflatten", "has_dups", "has_variety", "reshape", "rotations", "filldedent", "lambdify",
    "threaded", "xthreaded", "public", "memoize_property", "timed", "integrate", "line_integrate",
    "mellin_transform", "inverse_mellin_transform", "laplace_transform", "laplace_correspondence",
    "laplace_initial_conds", "inverse_laplace_transform", "fourier_transform",
    "inverse_fourier_transform", "sine_transform", "inverse_sine_transform", "cosine_transform",
    "inverse_cosine_transform", "hankel_transform", "inverse_hankel_transform",
    "singularityintegrate", "get_contraction_structure", "get_indices", "shape", "tensorproduct",
    "tensorcontraction", "tensordiagonal", "derive_by_array", "permutedims", "parse_expr",
    "euler_equations", "singularities", "is_increasing", "is_strictly_increasing", "is_decreasing",
    "is_strictly_decreasing", "is_monotonic", "finite_diff_weights", "apply_finite_diff",
    "differentiate_finite", "periodicity", "not_empty_in", "is_convex", "stationary_points",
    "minimum", "maximum", "pager_print", "pretty", "pretty_print", "pprint", "pprint_use_unicode",
    "pprint_try_use_unicode", "latex", "print_latex", "multiline_latex", "mathml", "print_mathml",
    "ccode", "print_ccode", "smtlib_code", "glsl_code", "print_glsl", "cxxcode", "fcode",
    "print_fcode", "rcode", "print_rcode", "jscode", "print_jscode", "julia_code",
    "mathematica_code", "octave_code", "rust_code", "print_gtk", "preview", "srepr", "print_tree",
    "sstr", "sstrrepr", "dotprint", "maple_code", "print_maple_code", "plot", "textplot",
    "plot_implicit", "plot_parametric", "init_session", "init_printing", "interactive_traversal",
    "test", "doctest",
    "list2numpy", "matrix2numpy", "rot_ccw_axis1", "rot_ccw_axis2", "rot_ccw_axis3", "rot_givens",
    "is_mersenne_prime"]

/-- The procedures on all values. -/
def commonProcedures : List String := [
    "__build_class__", "__import__", "abs", "aiter", "all", "anext", "any", "ascii", "bin",
    "breakpoint", "callable", "chr", "compile", "delattr", "dir", "divmod", "eval", "exec",
    "format", "getattr", "globals", "hasattr", "hash", "hex", "id", "input", "isinstance",
    "issubclass", "iter", "len", "locals", "next", "oct", "open", "ord", "pow", "print", "repr",
    "round", "setattr", "sorted", "sum", "vars"]

/-- The classes of things that are no expressions. -/
def classes : List String := [
    "SympifyError", "PoleError", "vectorize", "FunctionClass", "PrecisionExhausted",
    "AssumptionsContext", "preorder_traversal", "postorder_traversal", "BasePolynomialError",
    "ExactQuotientFailed", "PolynomialDivisionFailed", "OperationNotSupported",
    "HeuristicGCDFailed", "HomomorphismFailed", "IsomorphismFailed", "ExtraneousFactors",
    "EvaluationFailed", "RefinementFailed", "CoercionFailed", "NotInvertible", "NotReversible",
    "NotAlgebraic", "DomainError", "PolynomialError", "UnificationFailed", "GeneratorsError",
    "GeneratorsNeeded", "ComputationFailed", "UnivariatePolynomialError",
    "MultivariatePolynomialError", "PolificationFailed", "OptionError", "FlagError", "Monomial",
    "Domain", "FiniteField", "IntegerRing", "RationalField", "RealField", "ComplexField",
    "AlgebraicField", "PolynomialRing", "FractionField", "ExpressionDomain", "GF", "FF", "Options",
    "Sieve", "EPath", "ShapeError", "NonSquareMatrixError", "GeometryError", "StrPrinter",
    "TableForm", "MatrixBase", "Matrix", "MutableMatrix", "MutableDenseMatrix", "SparseMatrix",
    "MutableSparseMatrix", "NDimArray", "DenseNDimArray", "MutableDenseNDimArray",
    "SparseNDimArray", "MutableSparseNDimArray"]

def objects : List (String × String) := [
    ("Q", "sympy.assumptions.ask.AssumptionKeys"), ("S", "sympy.core.singleton.SingletonRegistry"),
    ("lex", "sympy.polys.orderings.LexOrder"), ("grlex", "sympy.polys.orderings.GradedLexOrder"),
    ("grevlex", "sympy.polys.orderings.ReversedGradedLexOrder"),
    ("ilex", "sympy.polys.orderings.InverseOrder"),
    ("igrlex", "sympy.polys.orderings.InverseOrder"),
    ("igrevlex", "sympy.polys.orderings.InverseOrder"),
    ("ZZ", "sympy.polys.domains.integerring.IntegerRing"),
    ("QQ", "sympy.polys.domains.rationalfield.RationalField"),
    ("ZZ_I", "sympy.polys.domains.gaussiandomains.GaussianIntegerRing"),
    ("QQ_I", "sympy.polys.domains.gaussiandomains.GaussianRationalField"),
    ("RR", "sympy.polys.domains.realfield.RealField"),
    ("CC", "sympy.polys.domains.complexfield.ComplexField"),
    ("EX", "sympy.polys.domains.expressiondomain.ExpressionDomain"),
    ("EXRAW", "sympy.polys.domains.expressionrawdomain.ExpressionRawDomain")]

def family? (name : String) : Option String :=
  (families.find? fun family => family.2.contains name).map fun family =>
    family.1 ++ "." ++ name

/-- The name without an alias. -/
def canonical (name : String) : String := (aliases.lookup name).getD name

def expression? (name : String) : Option Expression :=
  match constants.lookup name with
  | some e => some e
  | none =>
      if functions.contains name then some (.leaf (.function name))
      else if domains.contains name then some (.leaf (.domain name))
      else (family? name).map fun path => .leaf (.family path)

def class? (name : String) : Option String :=
  if procedures.contains name then some "function"
  else if commonProcedures.contains name then some "builtin_function_or_method"
  else if classes.contains name then some "type"
  else objects.lookup name

/-- What a name stands for, unless it is a symbol. -/
def ofName? (name : String) : Option Known :=
  match expression? (canonical name) with
  | some e => some (.expression e)
  | none => (class? name).map .thing

end Known

end Clausal

/-!
# Functions

How many arguments the functions take that are known by name.  A function that is
not known takes any number.
-/

namespace RideQuery.Sql

/-- How many arguments a function takes; no upper bound if there is no last number. -/
structure Arity where
  least : Nat
  most : Option Nat
  deriving DecidableEq

namespace Arity

/-- Whether a function may be given a number of arguments. -/
def admits (arity : Arity) (count : Nat) : Bool :=
  arity.least ≤ count && (arity.most.map fun most => decide (count ≤ most)).getD true

/-- The functions of no argument. -/
def ofNone : List String := ["VERSION"]

/-- The functions of exactly one argument. -/
def ofOne : List String :=
  ["ABS", "ACOS", "ACOSH", "ANY_VALUE", "ARRAY_COMPACT", "ARRAY_CONCAT_AGG", "ARRAY_FIRST",
    "ARRAY_LAST", "ARRAY_REVERSE", "ARRAY_UNION_AGG", "ARRAY_UNIQUE_AGG", "ASCII", "ASIN",
    "ASINH", "ATANH", "AVG", "BIT_AND", "BIT_LENGTH", "BIT_OR", "BIT_XOR", "BOOLAND_AGG",
    "BOOLOR_AGG", "BOOL_AND", "BOOL_OR", "CBRT", "COS", "COSH", "COT", "COTH", "COUNTIF",
    "COUNT_IF", "CSC", "CSCH", "DAY", "DAYNAME", "DAYOFMONTH", "DAYOFWEEK", "DAYOFYEAR",
    "DAY_OF_MONTH", "DAY_OF_WEEK", "DAY_OF_YEAR", "DEGREES", "EXP", "EXPLODE_OUTER",
    "FACTORIAL", "FIRST_VALUE", "FLATTEN", "FROM_BASE64", "HEX", "HOUR", "ISINF", "ISNAN",
    "IS_INF", "IS_NAN", "JUSTIFY_DAYS", "JUSTIFY_HOURS", "JUSTIFY_INTERVAL", "KURTOSIS",
    "LAST_VALUE", "LCASE", "LN", "LOGICAL_AND", "LOGICAL_OR", "LOWER", "LOWER_HEX", "MD5",
    "MEDIAN", "MINUTE", "MONTH", "QUARTER", "RADIANS", "REVERSE", "SEC", "SECH", "SECOND", "SHA",
    "SHA1", "SIGN", "SIGNUM", "SIN", "SINH", "SKEWNESS", "SOUNDEX", "SPACE", "SQRT", "STDDEV",
    "STDDEV_POP", "STDDEV_SAMP", "STDEV", "SUM", "TAN", "TANH", "TO_BASE64", "TO_HEX", "UCASE",
    "UNICODE", "UPPER", "VARIANCE", "VARIANCE_POP", "VARIANCE_SAMP", "VAR_POP", "VAR_SAMP",
    "WEEKOFYEAR", "WEEK_OF_YEAR", "YEAR"]

/-- The functions of exactly two arguments. -/
def ofTwo : List String :=
  ["ALL_MATCH", "ANY_MATCH", "ARRAYS_OVERLAP", "ARRAY_ALL", "ARRAY_ANY", "ARRAY_CONTAINS_ALL",
    "ARRAY_FILTER", "ARRAY_HAS_ALL", "ARRAY_OVERLAPS", "ARRAY_PREPEND", "ARRAY_REMOVE", "ATAN2",
    "COLLATE", "COVAR_POP", "COVAR_SAMP", "DECODE_CASE", "ENCODE", "ENDSWITH", "ENDS_WITH",
    "FILTER", "GET_BIT", "JSONB_CONTAINS", "JSONB_OBJECT_AGG", "LEFT", "NULLIF", "POW", "POWER",
    "QUANTILE", "REGR_AVGX", "REGR_AVGY", "REGR_COUNT", "REGR_INTERCEPT", "REGR_R2",
    "REGR_SLOPE", "REGR_SXX", "REGR_SXY", "REGR_SYY", "REPEAT", "RIGHT", "SAFE_DIVIDE",
    "STARTSWITH", "STARTS_WITH"]

/-- The functions between two numbers of arguments, the second being the greatest. -/
def ofRange : List (String × Nat × Nat) :=
  [("APPROX_COUNT_DISTINCT", 1, 2), ("APPROX_DISTINCT", 1, 2), ("APPROX_QUANTILE", 2, 5),
    ("ARRAYAGG", 1, 2), ("ARRAY_AGG", 1, 2), ("ARRAY_APPEND", 2, 3), ("ARRAY_CONTAINS", 2, 3),
    ("ARRAY_HAS", 2, 3), ("ARRAY_JOIN", 2, 4), ("ARRAY_LENGTH", 1, 2), ("ARRAY_SIZE", 1, 2),
    ("ARRAY_SORT", 1, 2), ("ARRAY_SUM", 1, 2), ("ARRAY_TO_STRING", 2, 4), ("ATAN", 1, 2),
    ("CEILING", 1, 3), ("CHARACTER_LENGTH", 1, 3), ("CHARINDEX", 2, 5), ("CHAR_LENGTH", 1, 3),
    ("CONTAINS", 2, 3), ("CORR", 2, 3), ("CURRENT_CATALOG", 0, 0), ("CURRENT_DATE", 0, 1),
    ("CURRENT_SCHEMA", 0, 1), ("CURRENT_TIME", 0, 1), ("CURRENT_TIMESTAMP", 0, 2),
    ("CURRENT_USER", 0, 1), ("DATEDIFF", 2, 6), ("DATEFROMPARTS", 1, 3), ("DATETIME", 0, 2),
    ("DATE_ADD", 2, 3), ("DATE_DIFF", 2, 6), ("DATE_FROM_PARTS", 1, 3), ("DATE_SUB", 2, 3),
    ("DATE_TRUNC", 2, 4), ("DIV", 0, 6), ("EXISTS", 1, 2), ("FIRST", 1, 2),
    ("GENERATE_SERIES", 2, 4), ("GEN_RANDOM_UUID", 0, 4), ("GROUP_CONCAT", 1, 3),
    ("INITCAP", 1, 2), ("INSERT", 4, 4), ("INSTR", 2, 5), ("JSON_ARRAY_LENGTH", 1, 2),
    ("LAG", 1, 3), ("LAST", 1, 2), ("LAST_DAY", 1, 2), ("LAST_DAY_OF_MONTH", 1, 2),
    ("LEAD", 1, 3), ("LEN", 1, 3), ("LENGTH", 1, 3), ("LEVENSHTEIN", 1, 6), ("LOCATE", 2, 5),
    ("LOG", 1, 2), ("LOG10", 0, 2), ("LOG2", 0, 2), ("LPAD", 2, 4), ("LTRIM", 1, 4),
    ("MAKE_TIME", 3, 6), ("MODE", 0, 2), ("MONTHS_BETWEEN", 2, 3), ("NOW", 0, 2),
    ("NTH_VALUE", 2, 3), ("NVL2", 2, 3), ("PERCENTILE_CONT", 1, 2), ("PERCENTILE_DISC", 1, 2),
    ("RAND", 0, 2), ("RANDOM", 0, 2), ("REGEXP_LIKE", 2, 3), ("REGEXP_REPLACE", 2, 7),
    ("REGEXP_SPLIT", 2, 4), ("REPLACE", 2, 3), ("ROUND", 1, 4), ("ROW_NUMBER", 0, 1),
    ("RPAD", 2, 4), ("RTRIM", 1, 4), ("SHA2", 1, 2), ("SHA256", 1, 2), ("SHA384", 1, 2),
    ("SHA512", 1, 2), ("SPLIT", 2, 3), ("SPLIT_PART", 3, 5), ("STRING_TO_ARRAY", 1, 3),
    ("STRPOS", 2, 5), ("STR_POSITION", 2, 5), ("STUFF", 4, 4), ("SUBSTR", 1, 3),
    ("TIME", 0, 2), ("TIMESTAMP", 0, 4), ("TO_CHAR", 2, 4), ("TO_DATE", 1, 3),
    ("TO_NUMBER", 1, 6), ("TO_TIMESTAMP", 1, 4), ("TRANSLATE", 3, 3), ("TRUNC", 1, 2),
    ("UUID", 0, 4), ("WEEK", 1, 2)]

/-- The functions of at least some number of arguments. -/
def ofAtLeast : List (String × Nat) :=
  [("COALESCE", 1), ("CONCAT", 1), ("CONCAT_WS", 1), ("EXPLODE", 1), ("GREATEST", 1),
    ("IFNULL", 1), ("JSON_EXTRACT_PATH", 1), ("JSON_EXTRACT_PATH_TEXT", 1), ("LEAST", 1),
    ("MAX", 1), ("MIN", 1), ("MOD", 2), ("NVL", 1), ("UNNEST", 1)]

/-- How many arguments a function takes, if it is known. -/
def ofName? (name : String) : Option Arity :=
  if ofOne.contains name then some ⟨1, some 1⟩
  else if ofTwo.contains name then some ⟨2, some 2⟩
  else if ofNone.contains name then some ⟨0, some 0⟩
  else
    match ofRange.lookup name with
    | some (least, most) => some ⟨least, some most⟩
    | none => (ofAtLeast.lookup name).map fun least => ⟨least, none⟩

/-- The functions known besides, which take any number of arguments. -/
def lenient : List String :=
  ["ARRAY", "ARRAY_CAT", "ARRAY_CONCAT", "COUNT", "DATE", "DENSE_RANK", "FORMAT",
    "JSON_OBJECT_AGG", "MAKE_INTERVAL", "MAKE_TIMESTAMP", "PERCENT_RANK", "RANK", "STRUCT"]

/-- Whether a function is known. -/
def isKnown (name : String) : Bool :=
  (ofName? name).isSome || lenient.contains name

/-- The functions that many rows are made one value with. -/
def aggregates : List String :=
  ["ANY_VALUE", "ARRAY_AGG", "AVG", "BOOL_AND", "BOOL_OR", "COUNT", "FIRST_VALUE", "LAG",
    "LAST_VALUE", "LEAD", "MAX", "MEDIAN", "MIN", "NTH_VALUE", "PERCENTILE_CONT",
    "PERCENTILE_DISC", "STDDEV", "STDDEV_POP", "STDDEV_SAMP", "STRING_AGG", "SUM", "VARIANCE",
    "VAR_POP", "VAR_SAMP"]

end Arity

end RideQuery.Sql

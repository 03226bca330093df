/-!
# Keywords

The words that SQL gives a meaning to, in capitals, by what else they may stand
for.  A reserved word is never a name.  The words of types and the contextual words
are names wherever their own meaning does not fit.  All other words are plain.
-/

namespace RideQuery.Sql.Keyword

/-- The phrases that are read as one word, whatever blanks stand in them. -/
def phrases : List String :=
  ["CHARACTER SET", "CHARACTER VARYING", "CHAR VARYING", "CLUSTER BY", "CONNECT BY",
    "DISTRIBUTE BY", "DOUBLE PRECISION", "FOREIGN KEY", "FOR TIMESTAMP", "FOR VERSION",
    "GROUP BY", "GROUPING SETS", "ORDER BY", "PARTITION BY", "PARTITIONED BY", "PRIMARY KEY",
    "SIMILAR TO", "SORT BY", "START WITH"]

/-- The words that cannot stand as names. -/
def reserved : List String :=
  ["ALTER", "AND", "AS", "BETWEEN", "CHARACTER SET", "CLUSTER BY", "CONNECT BY", "CREATE",
    "CROSS", "DISTINCT", "DISTRIBUTE BY", "DROP", "ELSE", "EXCEPT", "FETCH", "FOR",
    "FOR TIMESTAMP", "FOR VERSION", "FROM", "GLOB", "GRANT", "GROUP BY", "GROUPING SETS",
    "HAVING", "ILIKE", "IN", "INNER", "INSERT", "INTERSECT", "INTO", "JOIN", "LATERAL", "LIKE",
    "NOT", "NOTNULL", "ON", "ONLY", "OR", "ORDER BY", "OUTER", "OVER", "PARTITION BY",
    "PARTITIONED BY", "PARTITIONED_BY", "PRIMARY KEY", "QUALIFY", "REGEXP", "RETURNING",
    "RLIKE", "ROLLBACK", "SELECT", "SIMILAR TO", "SORT BY", "START WITH", "STRAIGHT_JOIN",
    "TABLESAMPLE", "THEN", "UNCACHE", "UNION", "USING", "VALUES", "VARIADIC", "WHEN", "WHERE",
    "WITH", "XOR"]

/-- The types that are made of other types. -/
def nestedTypes : List String :=
  ["ARRAY", "LIST", "MAP", "NULLABLE", "OBJECT", "RANGE", "STRUCT"]

/-- The types of times of day. -/
def timeTypes : List String := ["TIME", "TIMETZ"]

/-- The types that a time zone may be named with. -/
def zonedTypes : List String :=
  timeTypes ++ ["TIMESTAMP", "TIMESTAMPTZ", "TIMESTAMPLTZ", "TIMESTAMP_LTZ", "TIMESTAMPNTZ",
    "TIMESTAMP_NTZ"]

/-- The types of numbers that may be without a sign. -/
def signedTypes : List String :=
  ["BIGINT", "INT8", "INT64", "LONG", "MEDIUMINT", "SMALLINT", "INT2", "INT16", "SHORT",
    "TINYINT", "BYTE", "INT1", "DECIMAL", "DEC", "NUMERIC", "NUMBER", "FIXED", "DOUBLE",
    "DOUBLE PRECISION", "FLOAT8", "INT", "INTEGER", "INT4", "INT32"]

/-- The types that name an object of the database. -/
def objectTypes : List String :=
  ["CSTRING", "OID", "REGCLASS", "REGCOLLATION", "REGCONFIG", "REGDICTIONARY", "REGNAMESPACE",
    "REGOPER", "REGOPERATOR", "REGPROC", "REGPROCEDURE", "REGROLE", "REGTYPE"]

/-- The words that name types, and may be names of anything else. -/
def types : List String :=
  nestedTypes ++ zonedTypes ++ signedTypes ++ objectTypes ++
    ["BIGDECIMAL", "BIGNUMERIC", "BIGSERIAL", "BINARY", "BIT", "BLOB", "BOOL", "BOOLEAN",
      "BPCHAR", "BYTEA", "CHAR", "CHAR VARYING", "CHARACTER", "CHARACTER VARYING", "CLOB", "DATE",
      "DATEMULTIRANGE", "DATERANGE", "DATETIME", "DECIMAL128", "DECIMAL256", "DECIMAL32",
      "DECIMAL64", "ENUM", "FLOAT", "FLOAT4", "GEOGRAPHY", "GEOMETRY", "HSTORE", "HUGEINT",
      "INET", "INT128", "INT256", "INT4MULTIRANGE", "INT4RANGE", "INT8MULTIRANGE", "INT8RANGE",
      "INTERVAL", "JSON", "JSONB", "LONGBLOB", "LONGTEXT", "LONGVARCHAR", "MEDIUMBLOB",
      "MEDIUMTEXT", "MONEY", "NAME", "NCHAR", "NULL", "NUMMULTIRANGE", "NUMRANGE", "NVARCHAR",
      "NVARCHAR2", "REAL", "SERIAL", "SMALLSERIAL", "STR", "STRING", "TEXT", "TIME_NS",
      "TINYBLOB", "TINYTEXT", "TSMULTIRANGE", "TSRANGE", "TSTZMULTIRANGE", "TSTZRANGE",
      "UHUGEINT", "UINT", "UINT128", "UINT256", "UNKNOWN", "USER-DEFINED", "UUID", "VARBINARY",
      "VARCHAR", "VARCHAR2", "VARIANT", "XML"]

/-- The words that begin a command which is not looked at further. -/
def commands : List String :=
  ["CALL", "DECLARE", "DO", "EXEC", "EXECUTE", "EXPLAIN", "FETCH", "OPTIMIZE", "PREPARE",
    "REFRESH", "REINDEX", "RENAME", "RESET", "REVOKE", "SHOW", "VACUUM"]

/-- The tables, views and the like that a statement may create or drop. -/
def objects : List String :=
  ["COLUMN", "CONSTRAINT", "DATABASE", "FOREIGN KEY", "FUNCTION", "INDEX", "NAMESPACE",
    "PROCEDURE", "SCHEMA", "SEQUENCE", "TABLE", "VIEW"]

/-- The words for a moment or a person that stand for a value without arguments. -/
def ambient : List String :=
  ["CURRENT_CATALOG", "CURRENT_DATE", "CURRENT_SCHEMA", "CURRENT_TIME", "CURRENT_TIMESTAMP",
    "CURRENT_USER", "LOCALTIME", "LOCALTIMESTAMP", "SESSION_USER"]

/-- The words that ask about a whole query. -/
def quantifiers : List String := ["ALL", "ANY", "EXISTS", "SOME"]

/-- The words with a meaning of their own that may also be names. -/
def contextual : List String :=
  commands ++ objects ++ ambient ++ quantifiers ++
    ["ANALYZE", "ANTI", "APPLY", "ASC", "ASOF", "AUTOINCREMENT", "AUTO_INCREMENT", "BEGIN",
      "CACHE", "CASE", "COLLATE", "COMMENT", "COMMIT", "COPY", "CUBE", "DEFAULT", "DELETE",
      "DESC", "DESCRIBE", "END", "ESCAPE", "FALSE", "FILTER", "FIRST", "FORMAT", "FULL", "IS",
      "ISNULL", "KEEP", "KILL", "LEFT", "LIMIT", "LOAD", "LOCK", "MERGE", "NATURAL", "NEXT",
      "OFFSET", "OPERATOR", "ORDINALITY", "OVERLAPS", "OVERWRITE", "PARTITION", "PERCENT",
      "PIVOT", "PRAGMA", "RECURSIVE", "REFERENCES", "REPLACE", "RIGHT", "ROLLUP", "ROW", "ROWS",
      "SEMI", "SESSION", "SET", "SETTINGS", "TEMP", "TEMPORARY", "TRUE", "TRUNCATE", "UNIQUE",
      "UNNEST", "UNPIVOT", "UPDATE", "USE", "VOLATILE", "WINDOW"]

/-- The words apart from those of types that may name a function. -/
def callable : List String :=
  quantifiers ++ ambient ++
    ["CALL", "COLLATE", "DECLARE", "DO", "EXEC", "EXPLAIN", "FILTER", "FIRST", "FORMAT", "GLOB",
      "ILIKE", "INDEX", "INSERT", "ISNULL", "LEFT", "LIKE", "MERGE", "NEXT", "OFFSET",
      "OPTIMIZE", "PREPARE", "PRIMARY KEY", "REFRESH", "REGEXP", "REINDEX", "REPLACE", "RESET",
      "REVOKE", "RIGHT", "RLIKE", "ROW", "SEQUENCE", "TABLE", "TRUNCATE", "UNNEST", "VACUUM",
      "WINDOW", "XOR"]

/-- Whether a word may be a name. -/
def isName (word : String) : Bool :=
  !reserved.contains word

/-- Whether a word names a type. -/
def isType (word : String) : Bool :=
  types.contains word

/-- Whether a word has no meaning of its own. -/
def isPlain (word : String) : Bool :=
  isName word && !isType word && !contextual.contains word

/-- Whether a word may name a function. -/
def isCallable (word : String) : Bool :=
  isPlain word || isType word || callable.contains word

/-- The words that a table is not renamed to without a further word. -/
def joinWords : List String :=
  ["ANTI", "ASOF", "FULL", "LEFT", "LOCK", "NATURAL", "RIGHT", "SEMI", "WINDOW"]

/-- Whether a word may name a table anew. -/
def isTableName (word : String) : Bool :=
  isName word && !joinWords.contains word

/-- Whether a word may name a table that is about to be changed anew. -/
def isChangedTableName (word : String) : Bool :=
  isTableName word && word != "SET"

/-- Whether a word may name a window inside another. -/
def isWindowName (word : String) : Bool :=
  isName word && word != "RANGE" && word != "ROWS"

/-- Whether a word may stand for a number of rows. -/
def isRowCount (word : String) : Bool :=
  isName word && word != "ROW" && word != "ROWS" && word != "PERCENT"

/-- The units that a span of time is counted in. -/
def intervalUnits : List String :=
  ["C", "CENT", "CENTS", "CENTURIES", "CENTURY", "D", "DAY", "DAYOFMONTH", "DAYOFWEEK",
    "DAYOFYEAR", "DAYS", "DD", "DEC", "DECADE", "DECADES", "DECS", "DOW", "DOY", "DW", "DY",
    "EPOCH", "H", "HH", "HOUR", "HOURS", "HR", "HRS", "ISODOW", "ISOWEEK", "ISOYEAR", "M", "MI",
    "MICROSEC", "MICROSECOND", "MICROSECONDS", "MICROSECS", "MIL", "MILLENIA", "MILLENNIUM",
    "MILLISEC", "MILLISECON", "MILLISECOND", "MILLISECONDS", "MILLISECS", "MILS", "MIN",
    "MINS", "MINUTE", "MINUTES", "MM", "MON", "MONS", "MONTH", "MONTHS", "MS", "MSEC", "MSECOND",
    "MSECONDS", "MSECS", "NANOSEC", "NANOSECOND", "NANOSECONDS", "NANOSECS", "NS", "NSEC",
    "NSECOND", "NSECONDS", "Q", "QTR", "QTRS", "QUARTER", "QUARTERS", "S", "SEC", "SECOND",
    "SECONDS", "SECS", "TIMEZONE_HOUR", "TIMEZONE_MINUTE", "US", "USEC", "USECOND", "USECONDS",
    "USECS", "W", "WEEK", "WEEKDAY", "WEEKOFYEAR", "WEEKS", "WK", "WOY", "WY", "Y", "YEAR",
    "YEARS", "YR", "YRS", "YY", "YYY", "YYYY"]

end RideQuery.Sql.Keyword

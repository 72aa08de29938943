/-! # The vocabulary of queries

The names that a query script may use, and the ones that deserve attention: operations that write
records or need a confirmation, calls that end a chain, operators of conditions, field flags, and
method names that look right and are not. -/

namespace ScriptGate

/-- A named operation of a query with what a caller should know about it. -/
structure Operation where
  /-- The method name as scripts write it. -/
  name : String
  /-- Whether a caller should confirm it before it runs. -/
  needsConfirmation : Bool
  writes : Bool
deriving DecidableEq, Repr

/-- The operations that write records or need a confirmation. -/
def operations : List Operation :=
  [⟨"insert", false, true⟩, ⟨"update", false, true⟩, ⟨"updateMultiple", true, true⟩,
   ⟨"delete", false, true⟩, ⟨"deleteMultiple", true, true⟩, ⟨"insertOrUpdate", false, true⟩,
   ⟨"disableWorkflow", true, false⟩, ⟨"disableAutoSysFields", true, false⟩,
   ⟨"forceUpdate", true, false⟩]

/-- The names of the operations that need a confirmation. -/
def confirmationOperations : List String :=
  (operations.filter (·.needsConfirmation)).map (·.name)

/-- The names of the operations that change records. -/
def writeOperations : List String := (operations.filter (·.writes)).map (·.name)

/-- Every method of the query interface, those of streams and optional values included. -/
def validMethods : List String :=
  ["where", "orWhere", "whereNull", "whereNotNull", "orWhereNull", "orWhereNotNull",
   "select", "selectOne", "get", "getBy",
   "insert", "update", "updateMultiple", "insertOrUpdate", "deleteMultiple",
   "orderBy", "orderByDesc", "limit",
   "disableWorkflow", "disableAutoSysFields", "forceUpdate", "withAcls",
   "withSecurityDataFilters",
   "count", "avg", "sum", "min", "max", "aggregate", "groupBy", "having",
   "toGlideRecord", "parse",
   "forEach", "map", "filter", "reduce", "toArray", "skip",
   "orElse", "isPresent", "flatMap"]

/-- The methods that end a chain and make the instance work. -/
def terminalOperations : List String :=
  ["select", "selectOne", "get", "getBy",
   "insert", "update", "updateMultiple", "insertOrUpdate", "deleteMultiple",
   "count", "avg", "sum", "min", "max"]

def validOperators : List String :=
  ["=", "!=", ">", ">=", "<", "<=",
   "IN", "NOT IN", "STARTSWITH", "ENDSWITH", "CONTAINS", "DOES NOT CONTAIN",
   "INSTANCEOF", "SAMEAS", "NSAMEAS", "GT_FIELD", "LT_FIELD",
   "GT_OR_EQUALS_FIELD", "LT_OR_EQUALS_FIELD", "BETWEEN",
   "DYNAMIC", "EMPTYSTRING", "ANYTHING", "LIKE", "NOT LIKE", "ON"]

/-- The flags that may follow a field name. -/
def validFieldFlags : List String :=
  ["$DISPLAY", "$CURRENCY_CODE", "$CURRENCY_DISPLAY", "$CURRENCY_STRING"]

/-- Method names that look right and are not defined, with what to write instead. -/
def undefinedMethods : List (String × String) :=
  [("selectAll", "Use .select() instead"),
   ("findOne", "Use .selectOne() or .get() instead"),
   ("find", "Use .select() instead"),
   ("query", "Use .select() instead (GlideQuery does not have .query())"),
   ("addQuery", "Use .where() instead (GlideQuery method)"),
   ("addEncodedQuery", "Use GlideQuery.parse() instead"),
   ("next", "Use .forEach() or .toArray() on Stream results instead"),
   ("getValue", "Use direct field access (e.g., record.field) instead"),
   ("setValue", "Use .update() or .insert() with object syntax instead")]

end ScriptGate

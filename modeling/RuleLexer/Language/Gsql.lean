import RuleLexer.Rule.Vocabulary
import RuleLexer.Table.Build

/-!
# GSQL

The table for queries in GSQL. The case of letters never matters. Keywords are whole words that no
dot stands before, so that `count` in `v.count` is the name of a method. Names of clauses,
accumulators and built-in functions also match at the beginning of longer words. In an edge pattern
such as `-(e:Follows)-` the part in parentheses is tokenized again by the same table.
-/
namespace RuleLexer.Gsql

def keywords : List String :=
  ["ACCUM", "AND", "ANY", "API", "AS", "ASC", "BAG", "BATCH", "BETWEEN", "BOOL", "BOTH", "BREAK",
   "BY", "CASE", "CATCH", "COMPRESS", "CONTINUE", "COUNT", "CREATE", "DATETIME", "DELETE", "DESC",
   "DISTRIBUTED", "DO", "DOUBLE", "EDGE", "ELSE", "END", "ESCAPE", "EXCEPTION", "FALSE", "FILE",
   "FLOAT", "FOREACH", "FOR", "FROM", "GRAPH", "GROUP", "GSQL_INT_MAX", "GSQL_INT_MIN",
   "GSQL_UINT_MAX", "HAVING", "IF", "IN", "INSERT", "INT", "INTERPRET", "INTERSECT", "INTERVAL",
   "INTO", "IS", "ISEMPTY", "JSONARRAY", "JSONOBJECT", "LASTHOP", "LEADING", "LIKE", "LIMIT",
   "LIST", "LOAD_ACCUM", "MAP", "MATCH", "MINUS", "NOT", "NULL", "OFFSET", "OR", "ORDER", "PATH",
   "PER", "PINNED", "POST_ACCUM", "POST-ACCUM", "PRIMARY_ID", "PRINT", "QUERY", "RAISE", "RANGE",
   "REPLACE", "RESET_COLLECTION_ACCUM", "RETURN", "RETURNS", "RUN", "SAMPLE", "SELECT",
   "SELECT_VERTEX", "SET", "SRC", "STATIC", "STRING", "SYNTAX", "TARGET", "TAGSTGT", "THEN", "TO",
   "TO_CSV", "TRAILING", "TRUE", "TRY", "TUPLE", "TYPEDEF", "UINT", "UNION", "UPDATE", "VALUES",
   "VERTEX", "WHEN", "WHERE", "WHILE", "WITH"]

def clauses : List String :=
  ["accum", "having", "limit", "order", "postAccum", "sample", "where"]

def accumulators : List String :=
  ["andaccum", "arrayaccum", "avgaccum", "bagaccum", "bitwiseandaccum", "bitwiseoraccum",
   "groupbyaccum", "heapaccum", "listaccum", "MapAccum", "maxaccum", "minaccum", "oraccum",
   "setaccum", "sumaccum"]

def functions : List String :=
  ["abs", "acos", "addTags", "ascii", "asin", "atan", "atan2", "avg", "ceil", "chr", "clear",
   "coalesce", "concat", "contains", "containsKey", "cos", "cosh", "count", "datetime_add",
   "datetime_diff", "datetime_format", "datetime_sub", "datetime_to_epoch", "day", "degrees",
   "difference", "differenceTags", "edgeAttribute", "epoch_to_datetime", "evaluate", "exp",
   "filter", "find_in_set", "flatten", "flatten_json_array", "float_to_int", "floor", "fmod", "get",
   "getAttr", "getBool", "getDouble", "getInt", "getJsonArray", "getJsonObject", "getString",
   "getTags", "getvid", "gsql_concat", "gsql_current_time_epoch", "gsql_day", "gsql_day_epoch",
   "gsql_find", "gsql_is_false", "gsql_is_not_empty_string", "gsql_is_true", "gsql_length",
   "gsql_lower", "gsql_ltrim", "gsql_month", "gsql_month_epoch", "gsql_regex_match",
   "gsql_regex_replace", "gsql_replace", "gsql_reverse", "gsql_rtrim", "gsql_split_by_space",
   "gsql_substring", "gsql_to_bool", "gsql_to_int", "gsql_to_uint", "gsql_token_equal",
   "gsql_token_ignore_case_equal", "gsql_trim", "gsql_ts_to_epoch_seconds", "gsql_upper",
   "gsql_uuid_v4", "gsql_year", "gsql_year_epoch", "hasTags", "hour", "ignore_if_exists", "instr",
   "intersectTags", "isDirected", "isTaggable", "ldexp", "left", "length", "log", "log10", "log2",
   "lower", "lpad", "ltrim", "max", "min", "minute", "month", "neighborAttribute", "neighbors",
   "now", "outdegree", "overwrite", "parse_json_array", "parse_json_object", "PI", "pop", "pow",
   "println", "radians", "rand", "reallocate", "reduce", "remove", "removeAll", "removeAllTags",
   "removeTags", "replace", "resize", "right", "round", "rpad", "rtrim", "second", "selectVertex",
   "setAttr", "sign", "sin", "sinh", "size", "soundex", "space", "split", "sqrt", "square",
   "str_to_int", "substr", "sum", "tan", "tanh", "to_datetime", "to_float", "to_int", "to_string",
   "to_vertex", "to_vertex_set", "token_len", "top", "translate", "trim", "trunc", "type", "upper",
   "year"]

/-- A rule for each word of a list, wherever it stands. -/
def wordRule (words : List String) (kind : TokenKind) : RuleDef :=
  .staying (Vocabulary.pattern { words }) (.token kind)

def comment : List RuleDef := [
  .staying "#.*" (.token .commentSingle),
  .staying "/\\*(.|\\n)*?\\*/" (.token .commentMultiline)]

def keywordRule : RuleDef :=
  .staying (Vocabulary.pattern { words := keywords, lead := "(?<!\\.)", tail := "\\b" })
    (.token .keyword)

def relations : List RuleDef := [
  .staying "(-\\s?)(\\(.*:\\w?\\))(\\s?-)"
    (.byGroups [.kind .operator, .delegate ⟨.this, none⟩, .kind .operator]),
  .staying "->|<-" (.token .operator),
  .staying "[.*\x7b\x7d\\[\\]<>_]" (.token .punctuation)]

def strings : List RuleDef := [
  .staying "\"([^\"\\\\]|\\\\.)*\"" (.token .string),
  .staying "@\x7b1,2\x7d\\w+" (.token .nameVariable)]

def barewords : List RuleDef := [
  .staying "[a-z]\\w*" (.token .name),
  .staying "(\\d+\\.\\d+|\\d+)" (.token .number)]

def operators : List RuleDef := [
  .staying
    "\\$|[^0-9|/\\-](-=|\\+=|\\*=|\\\\=|=|==|===|\\+|-|\\*|\\\\|\\+=|>|<)[^>|/]"
    (.token .operator),
  .staying "(\\||\\(|\\)|,|;|=|-|\\+|\\*|/|>|<|:)" (.token .operator)]

def definition : TableDef where
  name := "GSQL"
  options := { patterns := { caseInsensitive := true, multiLine := true } }
  states := [
    ⟨"root", [
      .includeState "comment", .includeState "keywords", .includeState "clauses",
      .includeState "accums", .includeState "relations", .includeState "functions",
      .includeState "strings", .includeState "whitespace", .includeState "barewords",
      .includeState "operators"]⟩,
    ⟨"comment", comment⟩,
    ⟨"keywords", [keywordRule]⟩,
    ⟨"clauses", [wordRule clauses .nameBuiltin]⟩,
    ⟨"accums", [wordRule accumulators .nameBuiltin]⟩,
    ⟨"functions", [wordRule functions .nameFunction]⟩,
    ⟨"relations", relations⟩,
    ⟨"strings", strings⟩,
    ⟨"whitespace", [.staying "\\s+" (.token .whitespace)]⟩,
    ⟨"barewords", barewords⟩,
    ⟨"operators", operators⟩]

def table : Except TableError RuleTable := definition.build []

end RuleLexer.Gsql

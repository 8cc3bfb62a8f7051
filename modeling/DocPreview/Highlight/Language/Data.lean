import DocPreview.Highlight.Grammar
import DocPreview.Highlight.Language.Html

/-!
# The grammars of data and of queries

Differences between files, drawings of graphs, SQL and YAML.
-/

namespace DocPreview.Highlight.Language

open Grammar

/-! ### Differences between files -/

/-- The grammar of differences between files, in all their formats. -/
def diff : Grammar := [
  ("main", context [
    mark r"^((\*{15})|(={67})|(-{3}))$\n?" "meta.separator",
    mark r"^\d+(,\d+)*(a|d|c)\d+(,\d+)*$\n?" "meta.diff.range.normal",
    mark r"^(@@)\s*(.+?)\s*(@@)\s*($\n?)?" "meta.diff.range.unified",
    mark r"^(((-{3}) .+ (-{4}))|((\*{3}) .+ (\*{4})))$\n?" "meta.diff.range.context",
    mark r"(^(((-{3}) .+)|((\*{3}) .+))$\n?|^(={4}) .+(?= - ))" "meta.diff.header.from-file",
    mark r"(^(\+{3}) .+$\n?| (-) .* (={4})$\n?)" "meta.diff.header.to-file",
    mark r"^(((>)( .*)?)|((\+).*))$\n?" "markup.inserted",
    mark r"^(!).*$\n?" "markup.changed",
    mark r"^(((<)( .*)?)|((-).*))$\n?" "markup.deleted",
    mark r"^Index(:) (.+)$\n?" "meta.diff.index"])]

/-! ### Drawings of graphs

A label in angle brackets is formatted as in HTML; it ends with the bracket behind its last tag.
-/

/-- The grammar of drawings of graphs. -/
def dot : Grammar := [
  ("main", context [
    mark r" ?(digraph)[ \t]+([A-Za-z0-9]+) ?(\x7b)" ""
      |>.parts [(1, "storage.type"), (2, "variable.other")],
    mark r"\b(?:node|edge|graph|digraph|subgraph|strict)\b" "storage.type",
    mark (r"\b(?:bottomlabel|color|comment|distortion|fillcolor|fixedsize|fontcolor|fontname|" ++
      r"fontsize|group|height|label|layer|orientation|peripheries|regular|shape|shapefile|sides|" ++
      r"skew|style|toplabel|URL|width|z)\b") "support.constant.attribute.node",
    mark (r"\b(?:arrowhead|arrowsize|arrowtail|color|constraint|decorate|dir|fontcolor|fontname|" ++
      r"fontsize|headlabel|headport|headURL|label|labelangle|labeldistance|labelfloat|" ++
      r"labelcolor|labelfontname|labelfontsize|layer|lhead|ltail|minlen|samehead|sametail|style|" ++
      r"taillabel|tailport|tailURL|weight)\b") "support.constant.attribute.edge",
    mark (r"\b(?:bgcolor|center|clusterrank|compound|concentrate|fillcolor|labeljust|labelloc|" ++
      r"layers|margin|mclimit|nodesep|nslimit|nslimit1|ordering|page|pagedir|quantum|rank|" ++
      r"rankdir|ranksep|ratio|remincross|rotate|samplepoints|searchsize|size|stylesheet|splines)\b")
      "support.constant.attribute.graph",
    push r"\x22" "punctuation.definition.string.begin" ["text"],
    mark r"=" "keyword.operator",
    mark r"\b\d+(?:\.\d+)?\b" "constant.numeric",
    push r"<" "" ["formatted label"],
    push r"/\*" "punctuation.definition.comment" ["block comment"],
    mark r"//.*$\n?" "comment.line.double-slash",
    mark r"^\s*#.*$\n?" "comment.line.number-sign"]),
  ("text", context [
    pop r"\x22" "punctuation.definition.string.end",
    mark r"\\." "constant.character.escape"] |>.whole "string.quoted.double"),
  ("formatted label", context [
    pop r"(?<=>)>" "",
    use "html:main"]),
  ("block comment", context [pop r"\*/" "punctuation.definition.comment"]
    |>.whole "comment.block")] ++ html.embedded "html"

/-! ### SQL

Case does not count. Words that form one keyword together are marked with the space between them.
-/

section

namespace Sql

/-- What can be created, changed and dropped. -/
def objects : String :=
  r"(aggregate|conversion|database|domain|function|group|(?:unique\s+)?index|language|" ++
    r"operator class|operator|procedure|rule|schema|sequence|table|tablespace|trigger|type|" ++
    r"user|view)"

/-- The contexts of statements. -/
def statements : Grammar := [
  ("statements", context [
    use "comments",
    mark (r"(?i)^\s*(create(?:\s+or\s+replace)?)\s+" ++ objects ++
      r"(\s+if\s+not\s+exists)?\s+(['\x22\x60]?)(\w+)\4") "meta.create" |>.parts [
        (1, "keyword.other.create"), (2, "keyword.other"), (3, "keyword.other"),
        (5, "entity.name.function")],
    mark (r"(?i)^\s*(drop)\s+" ++ objects) "meta.drop"
      |>.parts [(1, "keyword.other.create"), (2, "keyword.other")],
    mark r"(?i)\s*(drop)\s+(table)\s+(\w+)(\s+cascade)?\b" "meta.drop" |>.parts [
      (1, "keyword.other.create"), (2, "keyword.other.table"), (3, "entity.name.function"),
      (4, "keyword.other.cascade")],
    mark (r"(?i)^\s*(alter)\s+" ++ objects ++ r"\s+") "meta.alter"
      |>.parts [(1, "keyword.other.create"), (2, "keyword.other.table")],
    mark (r"(?i)\b(?:bigint|bigserial|bit|boolean|box|bytea|cidr|circle|date|datetime|" ++
      r"double\sprecision|inet|int|integer|line|lseg|macaddr|money|ntext|oid|path|point|polygon|" ++
      r"real|serial|smallint|sysdate|sysname|text)\b") "storage.type",
    mark r"(?i)\b(bit\svarying|character\s(?:varying)?|tinyint|var\schar|float|interval)\((\d+)\)"
      ""
      |>.parts [(1, "storage.type"), (2, "constant.numeric")],
    mark r"(?i)\b(char|number|nvarchar|varbinary|varchar\d?)\b(?:\((\d+)\))?" ""
      |>.parts [(1, "storage.type"), (2, "constant.numeric")],
    mark r"(?i)\b(numeric|decimal)\b(?:\((\d+),(\d+)\))?" "" |>.parts [
      (1, "storage.type"), (2, "constant.numeric"), (3, "constant.numeric")],
    mark r"(?i)\b(times)(?:\((\d+)\))(\swithoutstimeszone\b)?" "" |>.parts [
      (1, "storage.type"), (2, "constant.numeric"), (3, "storage.type")],
    mark r"(?i)\b(timestamp)(s|tz)?(?:\((\d+)\))?(\s(?:with|without)\stime\szone\b)?" ""
      |>.parts [(1, "storage.type"), (2, "storage.type"), (3, "constant.numeric"),
        (4, "storage.type")],
    mark (r"(?i)\b(?:(?:primary|foreign)\s+key|references|on\sdelete(?:\s+cascade)?|check|" ++
      r"constraint)\b")
      "storage.modifier",
    mark r"\b\d+\b" "constant.numeric",
    use "keywords",
    use "functions",
    mark r"(\w+?)\.(\w+)" ""
      |>.parts [(1, "constant.other.database-name"), (2, "constant.other.table-name")],
    use "strings"]),
  ("keywords", context [
    mark (r"(?i)\b(?:select(?:\s+distinct)?|insert\s+(?:ignore\s+)?into|update|delete|from|set|" ++
      r"where|group\s+by|or|like|between|and|with|case|when|then|else|end|union(?:\s+all)?|" ++
      r"having|order\s+by|limit|(?:inner|cross)\s+join|straight_join|full\s+outer|join|" ++
      r"(?:left|right)(?:\s+outer)?\s+join|natural(?:\s+(?:left|right)(?:\s+outer)?)?\s+join)\b")
      "keyword.other.DML",
    mark r"(?i)\b(?:on|(?:(?:is\s+)?not\s+)?null)\b" "keyword.other.DDL.create.II",
    mark r"(?i)\bvalues\b" "keyword.other.DML.II",
    mark (r"(?i)\b(?:begin(?:\s+work)?|start\s+transaction|commit(?:\s+work)?|" ++
      r"rollback(?:\s+work)?)\b") "keyword.other.LUW",
    mark r"(?i)\b(?:grant(?:\swith\sgrant\soption)?|revoke)\b" "keyword.other.authorization",
    mark r"(?i)\bin\b" "keyword.other.data-integrity",
    mark (r"(?i)^\s*(?:comment\s+on\s+(?:table|column|aggregate|constraint|database|domain|" ++
      r"function|index|operator|rule|schema|sequence|trigger|type|view))\s+.*?\s+(?:is)\s+")
      "keyword.other.object-comments",
    mark r"(?i)\bas\b" "keyword.other.alias",
    mark r"(?i)\b(?:desc|asc)\b" "keyword.other.order",
    mark r"\*" "keyword.operator.star",
    mark r"[!<>]?=|<>|<|>" "keyword.operator.comparison",
    mark r"-(?!-)|\+|/(?!\*)" "keyword.operator.math",
    mark r"\|\|" "keyword.operator.concatenator"]),
  ("functions", context [
    mark r"(?i)\b(?:current_(?:date|time(?:stamp)?|user)|(?:session|system)_user)\b"
      "support.function.scalar",
    mark r"(?i)\b(?:avg|count|min|max|sum)(?=\s*\()" "support.function.aggregate",
    mark r"(?i)\b(?:concatenate|convert|lower|substring|translate|trim|upper)\b"
      "support.function.string"])]

/-- The contexts of comments and strings. -/
def texts : Grammar := [
  ("comments", context [
    push r"--" "punctuation.definition.comment" ["dashed comment"],
    push r"#" "punctuation.definition.comment" ["number sign comment"],
    push r"/\*" "punctuation.definition.comment" ["block comment"]]),
  ("dashed comment", context [pop r"\n" ""] |>.whole "comment.line.double-dash"),
  ("number sign comment", context [pop r"\n" ""] |>.whole "comment.line.number-sign"),
  ("block comment", context [pop r"\*/" "punctuation.definition.comment"]
    |>.whole "comment.block"),
  ("strings", context [
    push r"'" "punctuation.definition.string.begin" ["single quoted"],
    push r"\x60" "punctuation.definition.string.begin" ["quoted name"],
    push r"\x22" "punctuation.definition.string.begin" ["double quoted"]]),
  ("single quoted", context [
    mark r"''" "constant.character.escape",
    pop r"'" "punctuation.definition.string.end",
    mark r"\\." "constant.character.escape"] |>.whole "string.quoted.single"),
  ("quoted name", context [
    pop r"\x60" "punctuation.definition.string.end",
    mark r"\\." "constant.character.escape"] |>.whole "string.quoted.other.backtick"),
  ("double quoted", context [
    mark r"\x22\x22" "constant.character.escape",
    pop r"\x22" "punctuation.definition.string.end",
    mark r"\\." "constant.character.escape"] |>.whole "string.quoted.double")]

end Sql

open Sql

/-- The grammar of SQL. -/
def sql : Grammar := [("main", context [use "statements"])] ++ statements ++ texts

end

/-! ### YAML

A plain scalar is a string unless it is a value of another type. What comes before a colon is a key.
-/

section

namespace Yaml

/-- How a plain scalar starts outside of brackets. -/
def startOut : String := r"(?:[^\s\-?:,\[\]\x7b\x7d#&*!|>'\x22%@\x60]|[?:-]\S)"

/-- How a plain scalar starts between brackets. -/
def startIn : String := r"(?:[^\s\-?:,\[\]\x7b\x7d#&*!|>'\x22%@\x60]|[?:-][^\s\[\]\x7b\x7d,])"

/-- Where a plain scalar ends outside of brackets. -/
def endOut : String := r"(?=\s*$|\s+#|\s*:(?:\s|$))"

/-- Where a plain scalar ends between brackets. -/
def endIn : String := r"(?=\s*$|\s+#|\s*:(?:\s|$)|\s*:[\[\]\x7b\x7d,]|\s*[\[\]\x7b\x7d,])"

/-- The rules for plain scalars of types other than strings. -/
def typed (stop : String) : List Entry := [
  mark ("(?:null|Null|NULL|~)" ++ stop) "constant.language.null",
  mark ("(?:y|Y|yes|Yes|YES|n|N|no|No|NO|true|True|TRUE|false|False|FALSE|on|On|ON|off|Off|OFF)" ++
    stop) "constant.language.boolean",
  mark ("(?:[-+]?0b[0-1_]+|[-+]?0[0-7_]+|[-+]?(?:0|[1-9][0-9_]*)|[-+]?0x[0-9a-fA-F_]+|" ++
    "[-+]?[1-9][0-9_]*(?::[0-5]?[0-9])+)" ++ stop) "constant.numeric.integer",
  mark ("(?:[-+]?(?:[0-9][0-9_]*)?\\.[0-9.]*(?:[eE][-+][0-9]+)?|" ++
    "[-+]?[0-9][0-9_]*(?::[0-5]?[0-9])+\\.[0-9_]*|[-+]?\\.(?:inf|Inf|INF)|\\.(?:nan|NaN|NAN))" ++
    stop) "constant.numeric.float",
  mark ("(?:\\d{4}-\\d{2}-\\d{2}|\\d{4}-\\d{1,2}-\\d{1,2}(?:[Tt]|[ \\t]+)\\d{1,2}:\\d{2}:\\d{2}" ++
    "(?:\\.\\d*)?(?:(?:[ \\t]*)Z|[-+]\\d{1,2}(?::\\d{1,2})?)?)" ++ stop) "constant.other.timestamp",
  mark ("=" ++ stop) "constant.language.value",
  mark ("<<" ++ stop) "constant.language.merge"]

/-- The contexts of scalars. -/
def scalars : Grammar := [
  ("plain out", context (typed endOut ++ [
    push startOut "string.unquoted.plain.out" ["plain text out"]])),
  ("plain text out", context [pop endOut ""] |>.content "string.unquoted.plain.out"),
  ("plain in", context (typed endIn ++ [
    push startIn "string.unquoted.plain.in" ["plain text in"]])),
  ("plain text in", context [pop endIn ""] |>.content "string.unquoted.plain.in"),
  ("key out", context [
    pop endOut "",
    set startOut "" ["key text out"]]),
  ("key text out", context [pop endOut ""]
    |>.whole "string.unquoted.plain.out entity.name.tag"),
  ("key in", context [
    pop endIn "",
    set startIn "" ["key text in"]]),
  ("key text in", context [pop endIn ""]
    |>.whole "string.unquoted.plain.in entity.name.tag"),
  ("quoted", context [
    push r"\x22" "punctuation.definition.string.begin" ["double quoted"],
    push r"'" "punctuation.definition.string.begin" ["single quoted"]]),
  ("double quoted", context [
    pop r"\x22" "punctuation.definition.string.end",
    mark (r"\\(?:[0abtnvfre \x22/\\N_Lp]|x[0-9a-fA-F]{2}|u[0-9a-fA-F]{4}|U[0-9a-fA-F]{8})|\\\n")
      "constant.character.escape"] |>.whole "string.quoted.double"),
  ("single quoted", context [
    mark r"''" "constant.character.escape",
    pop r"'" "punctuation.definition.string.end"] |>.whole "string.quoted.single"),
  ("block scalar", context [
    push r"^([ ]+)(?! )" "" ["block text"],
    pop r"^(?=\S)" ""]),
  ("block text", context [pop r"^(?!\1|\s*$)" ""] |>.whole "string.unquoted.block")]

/-- The contexts of nodes. -/
def nodes : Grammar := [
  ("comments", context [mark r"(?:^|(?<=\s))#.*$\n?" "comment.line.number-sign"]),
  ("properties", context [
    mark r"(&)([^\s\[\]/\x7b\x7d,]+)" ""
      |>.parts [(1, "keyword.control.property.anchor"), (2, "entity.name.other.anchor")],
    mark r"(\*)([^\s\[\]/\x7b\x7d,]+)" ""
      |>.parts [(1, "keyword.control.flow.alias"), (2, "variable.other.alias")],
    mark r"!(?:<[^>\s]*>|(?:[\w-]*!)?[^\s\[\]\x7b\x7d,]*)" "storage.type.tag-handle"]),
  ("block", context [
    mark r"^---(?=\s|$)" "entity.other.document.begin",
    mark r"^\.\.\.(?=\s|$)" "entity.other.document.end",
    mark r"^%.*$\n?" "meta.directive",
    use "comments",
    mark r"-(?=\s|$)" "punctuation.definition.block.sequence.item",
    mark r"\?(?=\s|$)" "punctuation.definition.key-value.begin",
    push r"(?:(\|)|(>))([1-9])?([-+])?([1-9])?(?:\s+(#.*))?.*$\n?" "" ["block scalar"] |>.parts [
      (1, "keyword.control.flow.block-scalar.literal"),
      (2, "keyword.control.flow.block-scalar.folded"),
      (3, "constant.numeric.indentation-indicator"),
      (4, "storage.modifier.chomping-indicator"),
      (5, "constant.numeric.indentation-indicator"),
      (6, "comment.line.number-sign")],
    use "properties",
    push ("(?=" ++ startOut ++ r"(?:[^\s:]|:\S|\s+(?![#\s]))*\s*:(?:\s|$))") "" ["key out"],
    mark r":(?=\s|$)" "punctuation.separator.key-value.mapping",
    use "quoted",
    use "collections",
    use "plain out"]),
  ("collections", context [
    push r"\[" "punctuation.definition.sequence.begin" ["flow sequence"],
    push r"\x7b" "punctuation.definition.mapping.begin" ["flow mapping"]]),
  ("flow sequence", context [
    pop r"\]" "punctuation.definition.sequence.end",
    use "flow"]),
  ("flow mapping", context [
    pop r"\x7d" "punctuation.definition.mapping.end",
    use "flow"]),
  ("flow", context [
    use "comments",
    mark r"," "punctuation.separator",
    use "properties",
    push ("(?=" ++ startIn ++ r"(?:[^\s:\[\]\x7b\x7d,]|:[^\s\[\]\x7b\x7d,]|\s+(?![#\s]))*\s*:" ++
      r"(?:\s|$|[\[\]\x7b\x7d,]))") "" ["key in"],
    mark r":(?=\s|$|[\[\]\x7b\x7d,])" "punctuation.separator.key-value.mapping",
    use "quoted",
    use "collections",
    use "plain in"])]

end Yaml

open Yaml

/-- The grammar of YAML. -/
def yaml : Grammar := [("main", context [use "block"])] ++ scalars ++ nodes

end

end DocPreview.Highlight.Language

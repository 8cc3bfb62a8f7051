import DocPreview.Highlight.Language.Data

/-!
# The grammar of Python

A string that stands at the start of a line between triple quotes documents what is around it. Raw
strings are read as regular expressions, in which a set of characters is one constant, with what
stands in it, and a group can have a name.
-/

namespace DocPreview.Highlight.Language

open Grammar

/-! ### Regular expressions -/

namespace PythonRegexp

/-- The contexts of expressions. -/
def items : Grammar := [
  ("main", context [
    mark r"\\[bBAZzG]|\^|\$" "keyword.control.anchor",
    mark r"\\[1-9][0-9]?" "keyword.other.back-reference",
    mark r"[?+*][?+]?|\x7b(?:\d+,\d+|\d+,|,\d+|\d+)\x7d\??" "keyword.operator.quantifier",
    mark r"\|" "keyword.operator.or",
    push r"\(\?#" "punctuation.definition.comment.begin" ["comment"],
    mark r"\(\?[iLmsux]+\)" "keyword.other.option-toggle",
    mark r"\(\?P=[a-zA-Z_]\w*\)" "keyword.other.back-reference.named",
    push r"\((?:\?=|\?!|\?<=|\?<!)" "" ["group"],
    push r"\(\?\(([1-9][0-9]?|[a-zA-Z_]\w*)\)" "" ["group"]
      |>.parts [(1, "entity.name.section.back-reference")],
    push r"\((?:\?P<([a-z]\w*)>|\?:)?" "" ["group"]
      |>.parts [(1, "entity.name.section.group")],
    use "characters"]),
  ("comment", context [pop r"\)" "punctuation.definition.comment.end"] |>.whole "comment.block"),
  ("group", context [
    pop r"\)" "punctuation.definition.group",
    use "main"] |>.whole "meta.group"),
  ("characters", context [
    mark r"\\[wWsSdDhH]|\." "constant.character.character-class",
    mark r"\\." "constant.character.escape.backslash",
    push r"(\[)(\^)?" "" ["set"] |>.parts [(2, "keyword.operator.negation")]]),
  ("set", context [
    pop r"\]" "punctuation.definition.character-class",
    use "characters",
    mark r"(?:(\\.)|.)-(?:(\\.)|[^\]])" "constant.other.character-class.range"
      |>.parts [(1, "constant.character.escape.backslash"),
        (2, "constant.character.escape.backslash")]]
    |>.whole "constant.other.character-class.set")]

end PythonRegexp

section

open PythonRegexp

/-- The grammar of regular expressions in Python. -/
def pythonRegexp : Grammar := items

end

/-! ### Python -/

namespace Python

/-- A name. -/
def name : String := r"(?:\b[[:alpha:]_][[:alnum:]_]*\b)"

/-- The functions of the language. -/
def functions : String :=
  r"\b(?:__import__|all|abs|any|ascii|bin|callable|chr|classmethod|compile|delattr|dir|divmod|" ++
    r"enumerate|eval|exec|filter|format|getattr|globals|hasattr|hash|help|hex|id|input|" ++
    r"isinstance|issubclass|iter|len|locals|map|max|min|next|oct|open|ord|pow|print|property|" ++
    r"range|repr|reversed|round|setattr|sorted|staticmethod|sum|super|type|vars|zip|apply|" ++
    r"buffer|cmp|coerce|execfile|file|intern|raw_input|reduce|reload|unichr|xrange)\b"

/-- The exceptions of the language. -/
def exceptions : String :=
  r"\b(?:(?:Arithmetic|Buffer|BlockingIO|BrokenPipe|ChildProcess|Connection(?:Aborted|Refused|" ++
    r"Reset)?|Environment|FileExists|FileNotFound|FloatingPoint|Interrupted|IO|IsADirectory|" ++
    r"Permission|ProcessLookup|Timeout|Indentation|Index|Key|Lookup|Memory|Name|NotImplemented|" ++
    r"NotADirectory|OS|Overflow|Recursion|Reference|Runtime|Standard|Syntax|System|Tab|Type|" ++
    r"UnboundLocal|Unicode(?:Encode|Decode|Translate)?|Value|VMS|Windows|ZeroDivision|" ++
    r"Attribute|Assertion|EOF|Import|ModuleNotFound)Error|(?:(?:Pending)?Deprecation|Runtime|" ++
    r"Syntax|User|Future|Import|Unicode|Bytes)?Warning|SystemExit|Stop(?:Async)?Iteration|" ++
    r"NotImplemented|KeyboardInterrupt|GeneratorExit|(?:Base)?Exception)\b"

/-- The types of the language. -/
def types : String :=
  r"\b(?:bool|bytearray|bytes|complex|dict|float|frozenset|int|list|memoryview|object|set|" ++
    r"slice|str|tuple|basestring|long|unicode)\b"

/-- The names with two underscores that have a meaning of their own as functions. -/
def magicFunctions : String :=
  r"\b__(?:abs|add|and|bool|bytes|call|cmp|coerce|complex|contains|del|delattr|delete|" ++
    r"delitem|delslice|dir|div|divmod|enter|eq|exit|float|floordiv|format|ge|get|getattr|" ++
    r"getattribute|getitem|gt|hash|hex|iadd|iand|idiv|imul|index|init|instancecheck|int|" ++
    r"invert|ior|isub|iter|le|len|long|lshift|lt|missing|mod|mul|ne|neg|new|next|nonzero|oct|" ++
    r"or|pos|pow|prepare|radd|rand|reduce|repr|reversed|rmul|round|rshift|rsub|set|setattr|" ++
    r"setitem|setslice|sizeof|str|sub|subclasscheck|truediv|trunc|unicode|xor|aenter|aexit|" ++
    r"aiter|anext|await|set_name|init_subclass|class_getitem|subclasshook)__\b"

/-- The names with two underscores that have a meaning of their own as variables. -/
def magicVariables : String :=
  r"\b__(?:all|bases|class|debug|dict|doc|file|members|metaclass|methods|module|mro|name|" ++
    r"qualname|slots|weakref|annotations|path|loader|package|spec|version|author)__\b"

/-- A word that starts a statement of SQL. -/
def statementAhead : String :=
  r"(?=\s*(?:SELECT|INSERT|UPDATE|DELETE|CREATE|REPLACE|ALTER|WITH)\b)"

/-- The contexts of the strings between some quotes. `shape` names them and `quote` is the text of
the quotes. -/
def strings (shape quote scope : String) (isLong : Bool) : Grammar :=
  let close := [pop quote "punctuation.definition.string.end"] ++
    (if isLong then [] else [pop r"\n" "invalid.illegal.unclosed-string"])
  let endOf := shape ++ " end"
  let whole (entries : List Entry) : Context := context (close ++ entries) |>.whole scope |>.bare
  [(endOf, context [pop ("(?=" ++ quote ++ (if isLong then ")" else r"|\n)")) ""]),
   (shape ++ " string end", context [use endOf, use "escapes", use "placeholders"]),
   (shape ++ " string", whole [
      set statementAhead "" [shape ++ " statement"],
      set r"(?=\S)" "" [shape ++ " plain"]]),
   (shape ++ " statement", whole [push "" "" ["sql:main"] |>.over (shape ++ " string end")]),
   (shape ++ " plain", whole [use "escapes", use "placeholders"]),
   (shape ++ " bytes", whole [use "byte escapes", use "placeholders"]),
   (shape ++ " raw", whole [
      set statementAhead "" [shape ++ " raw statement"],
      set r"(?=\S)" "" [shape ++ " regexp"]]),
   (shape ++ " raw statement", whole [push "" "" ["sql:main"] |>.over endOf]),
   (shape ++ " raw bytes", whole [push "" "" ["regexp:main"] |>.over endOf]),
   (shape ++ " regexp", whole [push "" "" ["regexp:main"] |>.over endOf]),
   (shape ++ " verbatim", whole []),
   (shape ++ " raw formatted", whole [use "replacements"]),
   (shape ++ " formatted", whole [use "escapes", use "replacements"])]

/-- The rules that start strings where a word can start. -/
def openAll : List Entry :=
  let quotes := [("long double", r"\x22\x22\x22"), ("long single", "'''"), ("double", r"\x22"),
    ("single", "'")]
  let open' (p : String × String) : List Entry := [
    push ("(" ++ p.2 ++ ")") "" [p.1 ++ " string"]
      |>.parts [(1, if p.2.startsWith "'" then "string.quoted.single" else "string.quoted.double")],
    push (r"\b([uU])(" ++ p.2 ++ ")") "" [p.1 ++ " string"]
      |>.parts [(1, "storage.type.string"), (2, "string.quoted")],
    push (r"\b([bB])(" ++ p.2 ++ ")") "" [p.1 ++ " bytes"]
      |>.parts [(1, "storage.type.string"), (2, "string.quoted")],
    push (r"\b([fF][rR]|[rR][fF])(" ++ p.2 ++ ")") "" [p.1 ++ " raw formatted"]
      |>.parts [(1, "storage.type.string"), (2, "string.quoted")],
    push (r"\b([fF])(" ++ p.2 ++ ")") "" [p.1 ++ " formatted"]
      |>.parts [(1, "storage.type.string"), (2, "string.quoted")],
    push (r"\b([bB]r|r[bB])(" ++ p.2 ++ ")") "" [p.1 ++ " raw bytes"]
      |>.parts [(1, "storage.type.string"), (2, "string.quoted")],
    push (r"\b([uU]?r)(" ++ p.2 ++ ")") "" [p.1 ++ " raw"]
      |>.parts [(1, "storage.type.string"), (2, "string.quoted")],
    push (r"\b([bB]R|R[bB]|[uU]?R)(" ++ p.2 ++ ")") "" [p.1 ++ " verbatim"]
      |>.parts [(1, "storage.type.string"), (2, "string.quoted")]]
  quotes.flatMap open'

/-- The contexts of all strings, and of what stands in them. -/
def allStrings : Grammar :=
  strings "long double" r"\x22\x22\x22" "string.quoted.double.block" true ++
  strings "long single" "'''" "string.quoted.single.block" true ++
  strings "double" r"\x22" "string.quoted.double" false ++
  strings "single" "'" "string.quoted.single" false ++ [
  ("strings", context openAll),
  ("escapes", context [
    mark r"\\(?:x\h{2}|[0-7]{1,3}|u\h{4}|U\h{8}|N\x7b[A-Z ]+\x7d|[\\'\x22abfnrtv]|\n)"
      "constant.character.escape"]),
  ("byte escapes", context [
    mark r"\\(?:x\h{2}|[0-7]{1,3}|[\\'\x22abfnrtv]|\n)" "constant.character.escape"]),
  ("placeholders", context [
    mark (r"%(?:\(([\w\s]*)\))?#?0?-?[ ]?\+?(?:\d*|\*)(?:\.(?:\d*|\*))?[hlL]?" ++
      r"[acdeEfFgGiorsuxX%]") "constant.other.placeholder"
      |>.parts [(1, "variable.other.placeholder")],
    mark r"%(?:[aAwdbBGmyYHIpMSfzZjuUVWcxX%]|-[dmHIMSj])" "constant.other.placeholder",
    mark r"\x7b\x7b|\x7d\x7d" "constant.character.escape",
    mark (r"\x7b(?:[\w.\[\]]+)?(?:![ars])?(?::(?:(?:.?[<>=^])?[ +-]?#?\d*,?(?:\.\d+)?" ++
      r"[bcdeEfFgGnosxX%]?|[^\x7d%]*%.[^\x7d]*))?\x7d") "constant.other.placeholder"]),
  ("replacements", context [
    mark r"\x7b\x7b|\x7d\x7d" "constant.character.escape",
    push r"\x7b" "punctuation.section.interpolation.begin" ["interpolation"]]),
  ("interpolation", context [
    pop r"\x7d" "punctuation.section.interpolation.end",
    mark r"![ars](?=[:\x7d])" "storage.modifier.conversion",
    push r":(?!=)" "" ["format specification"],
    use "expressions"] |>.clear (.some 1) |>.whole "meta.interpolation" |>.bare),
  ("format specification", context [
    pop r"(?=\x7d)" "",
    use "replacements"] |>.whole "meta.format-spec constant.other.format-spec" |>.bare)]

/-- The contexts of statements. -/
def statements : Grammar := [
  ("statements", context [
    use "documentation",
    use "line continuation",
    push (r"\b(async\s+)?(def)\s+") "" ["definition", "definition name"]
      |>.parts [(1, "storage.modifier.async"), (2, "storage.type.function")],
    push r"\b(class)\s+" "" ["class", "class name"] |>.parts [(1, "storage.type.class")],
    push r"^\s*(@)" "" ["decorator"] |>.parts [(1, "punctuation.definition.annotation")],
    push r"\b(from)\b" "keyword.control.import.from" ["from"],
    push r"\b(import)\b" "keyword.control.import" ["imports"],
    mark r"\b(?:async\s+with|with)\b" "keyword.control.flow",
    mark r"\b(?:if|elif|else|while|try|finally|except|return|break|continue|pass)\b"
      "keyword.control.flow",
    push r"\braise\b" "keyword.control.flow.raise" ["raise"],
    mark r"\bassert\b|\bdel\b|\bexec(?! *($|[,.()\]\x7d]))|\bprint(?! *([,.()\]\x7d]))"
      "keyword.other",
    mark r"\b(?:global|nonlocal)\b" "storage.modifier",
    use "expressions"]),
  ("raise", context [
    use "line continuation",
    pop r"(?=[;#])|$" "",
    mark r"\bfrom\b" "keyword.control.flow.raise.from",
    use "expressions"]),
  ("line continuation", context [mark r"\\$" "punctuation.separator.continuation.line"]),
  ("documentation", context [
    push r"^\s*(?=[uU]?[rR]?(?:\x22\x22\x22|'''))" "" ["documentation string"]]),
  ("documentation string", context [
    set r"[uU]?[rR]?\x22\x22\x22" "punctuation.definition.comment.begin" ["double documentation"],
    set r"[uU]?[rR]?'''" "punctuation.definition.comment.begin" ["single documentation"]]),
  ("double documentation", context [pop r"\x22\x22\x22" ""]
    |>.whole "comment.block.documentation" |>.bare),
  ("single documentation", context [pop r"'''" ""]
    |>.whole "comment.block.documentation" |>.bare),
  ("definition name", context [
    pop magicFunctions "entity.name.function support.function.magic",
    pop name "entity.name.function",
    popElse]),
  ("definition", context [
    push r"\(" "punctuation.section.parameters.begin" ["parameters"],
    mark r"->" "punctuation.separator.annotation.return",
    pop r":" "punctuation.section.function.begin",
    pop r"$" "",
    use "expressions"]),
  ("parameters", context [
    pop r"\)" "punctuation.section.parameters.end",
    mark r"," "punctuation.separator.parameters",
    mark r"\*\*?" "keyword.operator.unpacking",
    mark r"\b(?:self|cls)\b" "variable.parameter.function.language",
    mark name "variable.parameter.function",
    push r":" "punctuation.separator.annotation" ["annotation"],
    push r"=" "keyword.operator.assignment" ["default"],
    push r"\(" "punctuation.section.group.begin" ["parameters"]]),
  ("annotation", context [
    pop r"(?=[,)=])" "",
    use "expressions"]),
  ("default", context [
    pop r"(?=[,)])" "",
    use "expressions"]),
  ("class name", context [
    pop name "entity.name.class",
    popElse]),
  ("class", context [
    push r"\(" "punctuation.section.inheritance.begin" ["parents"],
    pop r":" "punctuation.section.class.begin",
    pop r"$" ""]),
  ("parents", context [
    pop r"\)" "punctuation.section.inheritance.end",
    mark r"," "punctuation.separator.inheritance",
    mark (name ++ r"(?=\s*=)") "variable.parameter.class-inheritance",
    mark r"=" "keyword.operator.assignment",
    push ("(?=" ++ name ++ ")") "" ["parent"],
    use "expressions"]),
  ("parent", context [
    mark (name ++ r"(?: *\. *)?") "",
    popNow] |>.content "entity.other.inherited-class"),
  ("decorator", context [
    set (name ++ r"(?=\s*\()") "variable.annotation.function" ["decorator call"],
    mark (name ++ r"(?=\s*\.)") "variable.annotation",
    mark r"\." "punctuation.accessor.dot",
    mark name "variable.annotation",
    pop r"$|(?=\S)" ""] |>.whole "meta.annotation"),
  ("decorator call", context [
    set r"\(" "punctuation.section.arguments.begin" ["decorator arguments"],
    popElse] |>.whole "meta.annotation"),
  ("decorator arguments", context [
    pop r"\)" "punctuation.section.arguments.end",
    use "arguments rules"] |>.whole "meta.annotation.arguments"),
  ("from", context [
    set r"\bimport\b" "keyword.control.import" ["imports"],
    pop r";|$" "",
    mark r"\.+" "keyword.control.import.relative",
    mark name ""]),
  ("imports", context [
    pop r";|$" "",
    push r"\(" "punctuation.section.import-list.begin" ["import list"],
    mark r"\bas\b" "keyword.control.import.as",
    mark r"\*" "constant.language.import-all",
    use "line continuation",
    use "comments",
    mark name ""]),
  ("import list", context [
    pop r"\)" "punctuation.section.import-list.end",
    use "comments",
    mark r"\bas\b" "keyword.control.import.as",
    mark name ""])]

/-- The contexts of expressions. -/
def expressions : Grammar := [
  ("comments", context [mark r"#.*$\n?" "comment.line.number-sign"]),
  ("expressions", context [
    use "comments",
    use "strings",
    mark r"\b0[xX](?:_?\h)+\b" "constant.numeric.integer.hexadecimal",
    mark r"\b0[oO]?(?:_?[0-7])+\b" "constant.numeric.integer.octal",
    mark r"\b0[bB](?:_?[01])+\b" "constant.numeric.integer.binary",
    mark (r"((?:\b\d[\d_]*\.[\d_]*|\.\d[\d_]*)(?:[eE][+-]?\d[\d_]*)?|\b\d[\d_]*[eE][+-]?" ++
      r"\d[\d_]*|\b\d[\d_]*)([jJ])\b") ""
      |>.parts [(1, "constant.numeric.complex"), (2, "storage.type.numeric")],
    mark r"(?:\b\d[\d_]*\.[\d_]*|\.\d[\d_]*)(?:[eE][+-]?\d[\d_]*)?" "constant.numeric.float",
    mark r"\b\d[\d_]*[eE][+-]?\d[\d_]*" "constant.numeric.float",
    mark r"\b\d[\d_]*(?:([lL])\b)?" "constant.numeric.integer"
      |>.parts [(1, "storage.type.numeric")],
    mark r"\b(yield)(?:\s+(from))?\b" ""
      |>.parts [(1, "keyword.control.flow.yield"), (2, "keyword.control.flow.yield-from")],
    mark r"\bawait\b" "keyword.control.flow",
    push r"\blambda\b" "storage.type.function.inline" ["lambda"],
    mark r"\b(?:and|in|is|not|or)\b" "keyword.operator.logical",
    push r"\b(?:async\s+)?for\b" "keyword.control.flow" ["for"],
    mark r"\b(?:if|else)\b" "keyword.control.flow",
    mark r"\bas\b" "keyword.control.flow.as",
    mark ("\\.\\s*(" ++ magicFunctions ++ ")") "" |>.parts [(1, "support.function.magic")],
    mark ("\\.\\s*(" ++ magicVariables ++ ")") "" |>.parts [(1, "support.variable.magic")],
    mark (r"(\.)(" ++ name ++ r")(?=\s*\()") "" |>.parts [(2, "variable.function")],
    mark (r"\.(?=" ++ name ++ r")" ++ name) "",
    mark r"\b(?:True|False|None|NotImplemented|Ellipsis)\b" "constant.language",
    mark r"\.\.\." "constant.language",
    mark functions "support.function.builtin",
    mark types "support.type",
    mark exceptions "support.type.exception",
    mark magicFunctions "support.function.magic",
    mark magicVariables "support.variable.magic",
    mark r"\b(?:self|cls)\b" "variable.language",
    push (name ++ r"(?=\s*\()") "variable.function" ["call"],
    push r"(?<=[\w\])])\s*(?=\()" "" ["call"],
    mark name "",
    mark r"<>" "invalid.deprecated.operator",
    mark r"<=|>=|==|<(?!<)|>(?!>)|!=" "keyword.operator.comparison",
    mark r"(?:\+|-|\*\*|\*|//|/|%|@|>>|<<|&|\||\^)=" "keyword.operator.assignment.augmented",
    mark r"\*\*|\*|//|/|%|\+|-|@" "keyword.operator.arithmetic",
    mark r"&|\||\^|~|<<|>>" "keyword.operator.bitwise",
    mark r"=" "keyword.operator.assignment",
    push r"\(" "punctuation.section.group.begin" ["group"],
    push r"\[" "punctuation.section.brackets.begin" ["brackets"],
    push r"\x7b" "punctuation.section.mapping.begin" ["mapping"]]),
  ("for", context [
    pop r"\bin\b" "keyword.control.flow.for.in",
    pop r"(?=[:)\]\x7d])|$" "",
    use "expressions"]),
  ("lambda", context [
    pop r":" "punctuation.section.function.begin",
    pop r"(?=[)\]\x7d])|$" "",
    mark r"," "punctuation.separator.parameters",
    mark r"\*\*?" "keyword.operator.unpacking",
    mark name "variable.parameter.function",
    push r"=" "keyword.operator.assignment" ["lambda default"]]),
  ("lambda default", context [
    pop r"(?=[,:)\]\x7d])" "",
    use "expressions"]),
  ("call", context [
    set r"\(" "punctuation.section.arguments.begin" ["arguments"],
    popElse]),
  ("arguments", context [
    pop r"\)" "punctuation.section.arguments.end",
    use "arguments rules"]),
  ("arguments rules", context [
    mark (name ++ r"(?=\s*=(?!=))") "variable.parameter",
    mark r"\*\*?(?=\s*[\w(\[\x7b])(?<=[(,]\*|[(,]\*\*|[(,]\s\*|[(,]\s\*\*)"
      "keyword.operator.unpacking",
    use "expressions"]),
  ("group", context [
    pop r"\)" "punctuation.section.group.end",
    use "expressions"]),
  ("brackets", context [
    pop r"\]" "punctuation.section.brackets.end",
    use "expressions"]),
  ("mapping", context [
    pop r"\x7d" "punctuation.section.mapping.end",
    use "expressions"])]

end Python

open Python

/-- The grammar of Python. -/
def python : Grammar :=
  [("main", context [
    mark r"^#!.*$\n?" "comment.line.number-sign",
    use "statements"])] ++
  statements ++ expressions ++ allStrings ++ pythonRegexp.embedded "regexp" ++
  sql.embedded "sql"

end DocPreview.Highlight.Language

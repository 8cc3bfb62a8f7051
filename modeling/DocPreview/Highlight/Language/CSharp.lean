import DocPreview.Highlight.Grammar

/-!
# The grammar of C#

Outside functions, declarations of namespaces, types and members are read. Inside functions, two
words in a row are a type and the variable that it is of.
-/

namespace DocPreview.Highlight.Language

open Grammar

namespace CSharp

/-- The words that are no names. -/
def reserved : String :=
  "(?:abstract|as|base|bool|break|byte|case|catch|char|checked|class|const|continue|decimal|" ++
    "default|delegate|do|double|else|enum|event|explicit|extern|false|finally|fixed|float|for|" ++
    "foreach|goto|if|implicit|in|int|interface|internal|is|lock|long|namespace|new|null|object|" ++
    "operator|out|override|params|private|protected|public|readonly|ref|return|sbyte|sealed|" ++
    "short|sizeof|stackalloc|static|string|struct|switch|this|throw|true|try|typeof|uint|ulong|" ++
    "unchecked|unsafe|ushort|using|virtual|void|volatile|while)\\b"

/-- A name. -/
def name : String := "(?:@?(?!" ++ reserved ++ r")\b[[:alpha:]_]\w*\b)"

/-- A name behind a type. -/
def declaredName : String :=
  r"(?:@?(?!(?:switch|is|as|in|new|when|and|or)\b)\b[[:alpha:]_]\w*\b)"

/-- The types of the language. -/
def basicType : String :=
  r"\b(?:bool|byte|sbyte|char|decimal|double|float|int|uint|long|ulong|short|ushort|object|" ++
    r"string|void)\b"

/-- What can stand behind the name of a type. -/
def typeSuffix : String := r"(?:\s*<[\w\s,.<>\[\]?]*>)?(?:\s*\?)?(?:\s*\[[\s,]*\])*(?:\s*\*)*"

/-- A type. -/
def anyType : String :=
  "(?:(?:" ++ basicType ++ "|" ++ name ++ r"(?:\s*\.\s*" ++ name ++ ")*)" ++ typeSuffix ++ ")"

/-- The words before a declaration. -/
def modifiers : String :=
  r"\b(?:public|private|protected|internal|static|readonly|abstract|sealed|virtual|override|" ++
    r"extern|unsafe|volatile|async|partial|new|const|event|fixed)\b"

/-- The contexts of comments. -/
def comments : Grammar := [
  ("prototype", context [use "comments", use "preprocessor"]),
  ("comments", context [
    push r"/\*" "punctuation.definition.comment.begin" ["block comment"],
    push r"///" "punctuation.definition.comment.documentation" ["documentation"],
    push r"//" "punctuation.definition.comment" ["line comment"]]),
  ("block comment", context [pop r"\*/" "punctuation.definition.comment.end"]
    |>.whole "comment.block" |>.bare),
  ("documentation", context [
    pop r"$\n?" "",
    mark r"(</?)([\w.]+)" "" |>.parts [(2, "entity.name.tag")],
    mark r"([\w.]+)=(\x22[^\x22]*\x22)" ""
      |>.parts [(1, "entity.other.attribute-name"), (2, "string.quoted.double")]]
      |>.whole "comment.block.documentation" |>.bare),
  ("line comment", context [pop r"$\n?" ""] |>.whole "comment.line.double-slash" |>.bare),
  ("preprocessor", context [
    mark r"^\s*(#\s*region)\b([ \t]*)([^\n]*)" "meta.preprocessor" |>.parts [
      (1, "keyword.control.preprocessor"), (3, "entity.name.section")],
    mark r"^\s*(#\s*endregion)\b.*\n?" "meta.preprocessor"
      |>.parts [(1, "keyword.control.preprocessor")],
    push (r"^\s*(#\s*(?:if|elif|else|endif|define|undef|warning|error|line|pragma))\b")
      "meta.preprocessor" ["directive"]
      |>.parts [(1, "keyword.control.preprocessor")]]),
  ("directive", context [
    pop r"(?=\n)" "",
    mark r"&&|\|\||!|==|!=" "keyword.operator",
    mark r"\b(?:true|false)\b" "constant.language",
    mark r"\b[[:alpha:]_]\w*\b" "constant.other.symbol",
    mark r"//.*" "comment.line.double-slash"] |>.content "meta.preprocessor" |>.bare)]

/-- A character that is written with a backslash. -/
def escape : String := r"\\(?:[0abfnrtv'\x22\\]|x\h{1,4}|u\h{4}|U\h{8})"

/-- The contexts of literals. -/
def literals : Grammar := [
  ("literals", context [
    mark r"\b(?:true|false|null)\b" "constant.language",
    mark r"\b0[xX][\h_]+([uUlL]*)\b" "constant.numeric.integer.hexadecimal"
      |>.parts [(1, "storage.type.numeric")],
    mark r"\b0[bB][01_]+([uUlL]*)\b" "constant.numeric.integer.binary"
      |>.parts [(1, "storage.type.numeric")],
    mark r"(?:\b\d[\d_]*)?\.\d[\d_]*(?:[eE][-+]?\d+)?([fFdDmM]?)(?!\w)" "constant.numeric.float"
      |>.parts [(1, "storage.type.numeric")],
    mark r"\b\d[\d_]*(?:[eE][-+]?\d+)?([uUlLfFdDmM]*)\b" "constant.numeric.integer.decimal"
      |>.parts [(1, "storage.type.numeric")],
    push r"(?:\$@|@\$)\x22" "punctuation.definition.string.begin" ["verbatim template"],
    push r"\$\x22" "punctuation.definition.string.begin" ["template"],
    push r"@\x22" "punctuation.definition.string.begin" ["verbatim text"],
    push r"\x22" "punctuation.definition.string.begin" ["text"],
    mark ("'(?:[^'\\\\\\n]|(" ++ escape ++ "))'") "constant.character.literal"
      |>.parts [(1, "constant.character.escape")]]),
  ("text", context [
    pop r"\x22" "punctuation.definition.string.end",
    use "escapes",
    use "placeholders",
    pop r"$\n?" "invalid.illegal.unclosed-string"] |>.whole "string.quoted.double" |>.bare),
  ("verbatim text", context [
    mark r"\x22\x22" "constant.character.escape",
    pop r"\x22" "punctuation.definition.string.end",
    use "placeholders"] |>.whole "string.quoted.double.raw" |>.bare),
  ("template", context [
    pop r"\x22" "punctuation.definition.string.end",
    mark r"\x7b\x7b|\x7d\x7d|\\\x22" "constant.character.escape",
    push r"\x7b" "punctuation.section.interpolation.begin" ["interpolation"],
    pop r"$\n?" "invalid.illegal.unclosed-string"] |>.whole "string.interpolated" |>.bare),
  ("verbatim template", context [
    mark r"\x22\x22|\x7b\x7b|\x7d\x7d" "constant.character.escape",
    pop r"\x22" "punctuation.definition.string.end",
    push r"\x7b" "punctuation.section.interpolation.begin" ["interpolation"]]
      |>.whole "string.interpolated" |>.bare),
  ("interpolation", context [
    pop r"\x7d" "punctuation.section.interpolation.end",
    mark r":[^\x7d]*" "constant.other.format-spec",
    use "expression"] |>.clear (.some 1) |>.whole "meta.interpolation"),
  ("escapes", context [
    mark escape "constant.character.escape",
    mark r"\\." "invalid.illegal.lone-escape"]),
  ("placeholders", context [
    mark r"\x7b\d+(?:,[^\x7d:]*)?(?::[^\x7d\x22]*)?\x7d" "constant.other.placeholder"])]

/-- The contexts of statements and expressions. -/
def statements : Grammar := [
  ("statements", context [
    push r"\x7b" "punctuation.section.block.begin" ["block"],
    push r"\bgoto\b" "keyword.control.goto" ["jump"],
    push r"\b(?:case)\b" "keyword.control.switch.case" ["case"],
    mark r"\b(default)\s*(:)" "" |>.parts [(1, "keyword.control.switch.case")],
    mark r"\byield\s+(?:return|break)\b" "keyword.control.flow.yield",
    push r"\block\b" "keyword.control.other" ["type group"],
    mark (r"\b(?:if|else|switch|while|do|for|foreach|try|catch|finally|return|throw|break|" ++
      r"continue|using|checked|unchecked|unsafe|fixed|when)\b") "keyword.control",
    mark ("^\\s*(" ++ name ++ r")\s*(:)(?!:)") "" |>.parts [(1, "entity.name.label")],
    mark r"\b(?:await|async)\b" "storage.modifier",
    push (r"(?=(?:const\s+)?(?:" ++ anyType ++ r"|\b(?:in|stackalloc))\s+" ++ declaredName ++
      r"\s*(?:[=;,)(:\[]|in\b|$))") "" ["variables", "variable type"],
    mark r";" "punctuation.terminator.statement",
    push r"\bis\b" "keyword.operator.reflection" ["tested type"],
    push r"=(?![=>])" "keyword.operator.assignment" ["value"],
    use "expression"]),
  ("tested type", context [
    mark r"\bnull\b" "constant.language",
    mark r"\b[[:alpha:]_]\w*(?=\s*\.)" "support.type",
    mark r"\." "",
    set basicType "storage.type" ["tested name"],
    set r"\b[[:alpha:]_]\w*" "support.type" ["tested name"],
    popElse]),
  ("tested name", context [
    push r"<" "punctuation.definition.generic.begin" ["type arguments"],
    mark r"\[[\s,]*\]" "",
    pop declaredName "variable.other",
    popElse]),
  ("type group", context [
    set r"\(" "punctuation.section.group.begin" ["type in parentheses"],
    popElse]),
  ("block", context [
    pop r"\x7d" "punctuation.section.block.end",
    use "statements"]),
  ("jump", context [
    mark r"\b(?:case|default)\b" "keyword.control.switch.case",
    pop r"(?=;)" "",
    use "expression"]),
  ("case", context [
    pop r":" "punctuation.separator.case-statement",
    use "expression"]),
  ("variable type", context [
    mark r"\bconst\b" "storage.modifier",
    pop (r"\bvar\b(?=\s+" ++ name ++ ")") "storage.type.variable",
    use "type items"]),
  ("type items", context [
    mark basicType "storage.type",
    push r"<" "punctuation.definition.generic.begin" ["type arguments"],
    mark r"\[[\s,]*\]|\?" "",
    mark r"\*" "keyword.operator",
    mark (name ++ r"(?=\s*\.)") "support.type",
    mark r"\." "punctuation.accessor.dot.namespace",
    pop ("\\b(?:stackalloc|in)\\b|" ++ name ++ "(?=\\s+" ++ declaredName ++ ")") "support.type",
    mark (name ++ r"(?=\s*(?:<|\[|\?|\*))") "support.type",
    popElse]),
  ("type arguments", context [
    pop r">" "punctuation.definition.generic.end",
    push r"<" "punctuation.definition.generic.begin" ["type arguments"],
    mark basicType "storage.type",
    mark r"\[[\s,]*\]|\?|," "",
    mark name "support.type",
    pop r"(?=[^\s\w.])" ""]),
  ("variables", context [
    set (name ++ r"(?=\s*\()") "entity.name.function" ["local function", "parameters"],
    pop r"(?=\bin\b)" "",
    mark declaredName "variable.other",
    mark r"\[[^\]\n]*\]" "",
    push r"=(?![=>])" "keyword.operator.assignment.variable" ["value"],
    mark r"," "punctuation.separator.variables",
    popElse]),
  ("local function", context [
    set r"\x7b" "punctuation.section.block.begin" ["block"],
    set r"=>" "keyword.operator" ["value"],
    popElse]),
  ("value", context [
    pop r"(?=[;,)\]\x7d])" "",
    push r"\x7b" "punctuation.section.block.begin" ["initializer"],
    use "expression"]),
  ("initializer", context [
    pop r"\x7d" "punctuation.section.block.end",
    push r"\x7b" "punctuation.section.block.begin" ["initializer"],
    use "expression"]),
  ("group", context [
    pop r"\)" "punctuation.section.group.end",
    mark r"\bin\b" "storage.modifier",
    push ("(?=" ++ anyType ++ "\\s+" ++ name ++ r"\s*(?:[=;,)]|in\b))") ""
      ["variables", "variable type"],
    use "statements"]),
  ("brackets", context [
    pop r"\]" "punctuation.section.brackets.end",
    use "expression"]),
  ("expression", context [
    use "literals",
    mark r"\b(?:this|base)\b" "variable.language",
    push r"\bnew\b" "keyword.operator.new" ["created type"],
    mark r"\b(?:await|async|ref|out|in|params)\b" "storage.modifier",
    mark r"\bnameof\b" "keyword.other",
    push r"\b(typeof|sizeof|default)\s*(\()" "" ["type in parentheses"]
      |>.parts [(1, "keyword.operator.reflection")],
    mark r"\b(?:is|as)\b" "keyword.operator.reflection",
    mark r"\b(?:delegate)\b" "storage.type",
    mark (r"\b(?:from|where|select|group|into|orderby|join|let|on|equals|by|ascending|" ++
      r"descending)(?=\s+\w)")
      "keyword.other.query",
    mark basicType "storage.type",
    mark ("(" ++ name ++ r")\s*(=>)") ""
      |>.parts [(1, "variable.parameter"), (2, "storage.type.function.lambda")],
    push r"\((?=[^()]*\)\s*=>)" "punctuation.section.group.begin"
      ["lambda", "parameter list"],
    mark r"=>" "keyword.operator",
    mark r"<<=|>>=|\?\?=|[-+*/%&|^]=|=(?!=)" "keyword.operator.assignment",
    mark r"\+\+|--" "keyword.operator",
    mark r"&&|\|\||\?\?|==|!=|<=|>=|<<|>>|[-+*/%&|^~!<>]" "keyword.operator",
    mark r"\?(?!\.)|:" "keyword.operator.ternary",
    push r"\(" "punctuation.section.group.begin" ["group"],
    push r"\[" "punctuation.section.brackets.begin" ["brackets"],
    push r"\x7b" "punctuation.section.block.begin" ["block"],
    push (name ++ r"(?=<[\w\s,.<>\[\]?]*>\s*\()") "variable.function" ["generic call"],
    mark (name ++ r"(?=\s*\()") "variable.function",
    mark name "variable.other"]),
  ("lambda", context [
    pop r"=>" "storage.type.function.lambda",
    popElse]),
  ("generic call", context [
    set r"<" "punctuation.definition.generic.begin" ["type arguments"],
    popElse]),
  ("created type", context [
    mark basicType "storage.type",
    push r"<" "punctuation.definition.generic.begin" ["type arguments"],
    mark name "support.type",
    mark r"\." "punctuation.accessor.dot.namespace",
    popElse]),
  ("type in parentheses", context [
    pop r"\)" "punctuation.section.group.end",
    mark basicType "storage.type",
    push r"<" "punctuation.definition.generic.begin" ["type arguments"],
    mark name "support.type"])]

/-- The contexts of declarations. -/
def declarations : Grammar := [
  ("outline", context [
    push r"\bnamespace\b" "keyword.control.namespace" ["namespace body", "namespace name"],
    push r"\busing\b" "keyword.control.import" ["import"],
    push r"\[" "punctuation.definition.annotation.begin" ["attribute"],
    use "types"]),
  ("import", context [
    mark r"\bstatic\b" "storage.modifier",
    mark ("(" ++ name ++ r")\s*(=)") ""
      |>.parts [(1, "variable.other"), (2, "keyword.operator.assignment")],
    mark name "",
    pop r";" "punctuation.terminator.statement",
    pop r"(?=[^\s.\w])" ""]),
  ("namespace name", context [
    mark name "entity.name.namespace",
    mark r"\." "punctuation.separator.namespace",
    popElse]),
  ("namespace body", context [
    set r"\x7b" "punctuation.section.block.begin" ["namespace"],
    popElse]),
  ("namespace", context [
    pop r"\x7d" "punctuation.section.block.end",
    use "outline",
    mark modifiers "storage.modifier"]),
  ("attribute", context [
    pop r"\]" "punctuation.definition.annotation.end",
    push r"\(" "punctuation.section.group.begin" ["group"],
    mark (r"\b(?:assembly|module|field|event|method|param|property|return|type)(?=\s*:)")
      "keyword.other",
    mark name "variable.annotation"] |>.whole "meta.annotation"),
  ("types", context [
    push r"\bclass\b" "storage.type.class" ["type body", "base types", "class name"],
    push r"\bstruct\b" "storage.type.struct" ["type body", "base types", "structure name"],
    push r"\binterface\b" "storage.type.interface" ["type body", "base types", "interface name"],
    push r"\benum\b" "storage.type.enum" ["enumeration body", "base types", "enumeration name"],
    push r"\bdelegate\b" "storage.type.delegate" ["member", "member type"]]),
  ("class name", context [pop name "entity.name.class", popElse]),
  ("structure name", context [pop name "entity.name.struct", popElse]),
  ("interface name", context [pop name "entity.name.interface", popElse]),
  ("enumeration name", context [pop name "entity.name.enum", popElse]),
  ("base types", context [
    push r"<" "punctuation.definition.generic.begin" ["type parameters"],
    mark r"\bwhere\b" "keyword.other.where",
    mark r"\b(?:class|struct|new)\b" "storage.type",
    mark r":|," "punctuation.separator",
    mark r"\(\)" "",
    mark basicType "storage.type",
    mark (name ++ r"(?=\s*:)") "support.type",
    mark r"\." "",
    mark name "entity.other.inherited-class",
    popElse]),
  ("type parameters", context [
    pop r">" "punctuation.definition.generic.end",
    push r"<" "punctuation.definition.generic.begin" ["type parameters"],
    mark basicType "storage.type",
    mark r"\b(?:in|out)\b" "storage.modifier",
    mark name "support.type"]),
  ("type body", context [
    set r"\x7b" "punctuation.section.block.begin" ["members"],
    pop r";" "",
    popElse]),
  ("enumeration body", context [
    set r"\x7b" "punctuation.section.block.begin" ["enumerators"],
    popElse]),
  ("enumerators", context [
    pop r"\x7d" "punctuation.section.block.end",
    push r"\[" "punctuation.definition.annotation.begin" ["attribute"],
    push r"=" "keyword.operator.assignment" ["value"],
    mark name "constant.other.enum"]),
  ("members", context [
    pop r"\x7d" "punctuation.section.block.end",
    push r"\[" "punctuation.definition.annotation.begin" ["attribute"],
    use "types",
    mark modifiers "storage.modifier",
    push (r"~?" ++ name ++ r"(?=\s*\()") "entity.name.function.constructor"
      ["function end", "parameters"],
    push ("(?=" ++ anyType ++ r"\s+[\w@])") "" ["member", "member type"],
    use "statements"]),
  ("member type", context [
    pop ("(?=" ++ name ++ r"\s*<[\w\s,]*>\s*\()") "",
    use "type items"]),
  ("member", context [
    push r"\boperator\b" "storage.type.function" ["operator"],
    set (name ++ r"(?=\s*(?:<[\w\s,]*>\s*)?\()") "entity.name.function"
      ["function end", "parameters", "generic parameters"],
    set r"\bthis\b(?=\s*\[)" "entity.name.function" ["property", "index parameters"],
    mark (name ++ r"(?=\s*\.)") "support.type",
    mark r"\." "punctuation.accessor",
    set (name ++ r"(?=\s*(?:\x7b|=>|$))") "variable.other.member" ["property"],
    mark name "variable.other.member",
    push r"=(?![=>])" "keyword.operator.assignment.variable" ["value"],
    mark r"," "punctuation.separator.variables",
    pop r";" "punctuation.terminator.statement",
    popElse]),
  ("operator", context [
    set r"[^\s\w(]+|\w+" "entity.name.function" ["function end", "parameters"],
    popElse]),
  ("generic parameters", context [
    set r"<" "punctuation.definition.generic.begin" ["type parameters"],
    popElse]),
  ("parameters", context [
    set r"\(" "punctuation.section.parameters.begin" ["parameter list"],
    popElse]),
  ("index parameters", context [
    set r"\[" "punctuation.section.parameters.begin" ["parameter list"],
    popElse]),
  ("parameter list", context [
    mark r"\[[\s,]*\]" "",
    pop r"[)\]]" "punctuation.section.parameters.end",
    push r"\[" "punctuation.definition.annotation.begin" ["attribute"],
    mark r"\b(?:ref|out|in|params|this)\b" "storage.modifier",
    mark basicType "storage.type",
    push r"<" "punctuation.definition.generic.begin" ["type arguments"],
    mark (name ++ r"(?=\s*(?:[,)=\]]|$))") "variable.parameter",
    push r"=" "keyword.operator.assignment" ["value"],
    mark name "support.type"]),
  ("function end", context [
    mark r"\bwhere\b" "keyword.other.where",
    push r":" "punctuation.separator" ["constructor call"],
    set r"\x7b" "punctuation.section.block.begin" ["block"],
    set r"=>" "storage.type.function.lambda" ["value"],
    pop r";" "punctuation.terminator.statement",
    mark name "support.type",
    mark r"," "",
    popElse]),
  ("constructor call", context [
    set r"\b(base|this)\s*(\()" "" ["group"] |>.parts [(1, "variable.language")],
    popElse]),
  ("property", context [
    set r"=>" "storage.type.function.lambda" ["value"],
    set r"\x7b" "punctuation.section.block.begin" ["accessors"],
    popElse]),
  ("accessors", context [
    set r"\x7d" "punctuation.section.block.end" ["property value"],
    mark modifiers "storage.modifier",
    mark r"\b(?:get|set|add|remove|init)\b" "storage.type.function.accessor",
    push r"\x7b" "punctuation.section.block.begin" ["block"],
    push r"=>" "storage.type.function.lambda" ["value"]]),
  ("property value", context [
    set r"=" "keyword.operator.assignment.variable" ["value"],
    popElse])]

end CSharp

open CSharp

/-- The grammar of C#. -/
def cSharp : Grammar :=
  [("main", context [
    use "outline",
    mark modifiers "storage.modifier",
    use "statements"])] ++ comments ++ literals ++ statements ++ declarations

end DocPreview.Highlight.Language

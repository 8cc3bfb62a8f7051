import DocPreview.Highlight.Grammar

/-!
# The grammars of D, Go and Pascal
-/

namespace DocPreview.Highlight.Language

open Grammar

/-! ### D -/

namespace D

/-- The contexts of D. -/
def contexts : Grammar := [
  ("main", context [
    use "comments",
    mark r"^\s*\b(class|struct|interface|union|enum|template)\b\s+(\w+)(?=[^;]*$|[^;]*\x7b)" ""
      |>.parts [(1, "storage.type"), (2, "entity.name.type.class")],
    mark r"\b(module)\s+([^ ;]+)" ""
      |>.parts [(1, "keyword.other.import"), (2, "entity.name.function.package")],
    mark r"\b(import)\s+((?:\w+\s*=\s*)?[^ ;:,=]+)[^;]*" ""
      |>.parts [(1, "keyword.other.import"), (2, "support.other.module")],
    mark r"~this\b" "entity.name.function.destructor",
    mark r"\b(version|debug)\s*\(\s*(\w+)\s*\)" ""
      |>.parts [(1, "keyword.control"), (2, "keyword.other.version")],
    mark r"@(?:disable|nogc|property|safe|system|trusted)\b" "storage.modifier",
    mark (r"\b(?:true|false|null|__FILE__|__LINE__|__DATE__|__TIME__|__TIMESTAMP__|__VENDOR__|" ++
      r"__VERSION__|__MODULE__|__FUNCTION__|__PRETTY_FUNCTION__)\b") "constant.language",
    mark (r"\b(?:0[xX]\h+|0[bB][01]+|\d+\.?\d*(?:[eE][-+]?\d+)?)(?:L|l|UL|ul|u|U|F|f|i)?\b")
      "constant.numeric",
    mark r"\b(?:Exception|Error|Throwable|Object|ClassInfo|ModuleInfo|TypeInfo)\b"
      "support.class",
    use "strings",
    mark r"\b(?:this|super)\b" "variable.language",
    mark (r"\b(?:auto|void|bool|byte|ubyte|short|ushort|int|uint|long|ulong|float|double|real|" ++
      r"char|wchar|dchar|cent|ucent|ifloat|idouble|ireal|cfloat|cdouble|creal|string|wstring|" ++
      r"dstring|size_t|ptrdiff_t|class|struct|interface|union|enum|template|function|delegate)\b")
      "storage.type",
    mark (r"\b(?:public|private|protected|package|export|static|final|abstract|override|const|" ++
      r"immutable|inout|shared|synchronized|deprecated|extern|scope|lazy|ref|out|pure|nothrow|" ++
      r"align|__gshared|alias|typedef|mixin|volatile)\b") "storage.modifier",
    mark (r"\b(?:if|else|switch|case|default|do|while|for|foreach|foreach_reverse|break|" ++
      r"continue|return|goto|with|try|catch|finally|throw|version|debug|unittest|invariant|body)\b")
      "keyword.control",
    mark r"\b(?:new|delete|typeof|typeid|cast|is|in|import|pragma|asm)\b" "keyword.other",
    mark r"==|!=|<=|>=|<>|<|>" "keyword.operator.comparison",
    mark r"\+\+|--" "keyword.operator.increment-decrement",
    mark r"-|\+|\*|/|~|%" "keyword.operator.arithmetic",
    mark r"!|&&|\|\|" "keyword.operator.logical",
    mark r"(?<=[\w)\]])\.(?=\w)" "keyword.operator.dereference"]),
  ("comments", context [
    mark r"/\*\*/" "comment.block.empty",
    push r"/\*" "punctuation.definition.comment" ["block comment"],
    push r"/\+" "punctuation.definition.comment" ["nested comment"],
    mark r"//.*$\n?" "comment.line.double-slash"]),
  ("block comment", context [pop r"\*/" "punctuation.definition.comment"]
    |>.whole "comment.block"),
  ("nested comment", context [
    pop r"\+/" "punctuation.definition.comment"] |>.whole "comment.block.nested"),
  ("strings", context [
    push r"\b(r)(\x22)" "" ["raw text"]
      |>.parts [(1, "storage.type.string"), (2, "string.quoted.double")],
    push r"\x60" "punctuation.definition.string.begin" ["backquoted text"],
    push r"\x22" "punctuation.definition.string.begin" ["text"],
    push r"'" "punctuation.definition.string.begin" ["character"]]),
  ("raw text", context [pop r"\x22" "string.quoted.double"]
    |>.content "string.quoted.double"),
  ("backquoted text", context [pop r"\x60" "punctuation.definition.string.end"]
    |>.whole "string.quoted.triple"),
  ("text", context [
    pop r"\x22" "punctuation.definition.string.end",
    mark r"\\(?:\\|[abefnprtv'\x22?]|[0-3]\d{0,2}|[4-7]\d?|x\h+|u\h+|&\w+;)"
      "constant.character.escape"] |>.whole "string.quoted.double"),
  ("character", context [
    pop r"'" "punctuation.definition.string.end",
    mark r"\\(?:\\|[abefnprtv'\x22?]|[0-3]\d{0,2}|[4-7]\d?|x\h+|u\h+|&\w+;)"
      "constant.character.escape"] |>.whole "string.quoted.single")]

end D

/-- The grammar of D. -/
def d : Grammar := D.contexts

/-! ### Go -/

section

namespace Go

/-- A name. -/
def name : String := r"\b[[:alpha:]_][[:alnum:]_]*\b"

/-- The types of the language. -/
def types : String :=
  r"\b(?:bool|byte|complex64|complex128|error|float32|float64|int|int8|int16|int32|int64|rune|" ++
    r"string|uint|uint8|uint16|uint32|uint64|uintptr)\b"

/-- The contexts of comments and literals. -/
def literals : Grammar := [
  ("prototype", context [use "comments"]),
  ("comments", context [
    push r"/\*" "punctuation.definition.comment" ["block comment"],
    mark r"//.*$\n?" "comment.line.double-slash"]),
  ("block comment", context [pop r"\*/" "punctuation.definition.comment"]
    |>.whole "comment.block" |>.bare),
  ("literals", context [
    mark r"\b(?:true|false|nil|iota)\b" "constant.language",
    mark r"(?:\b\d+\.\d*|\.\d+)(?:[eE][-+]?\d+)?i?" "constant.numeric.float",
    mark r"\b\d+[eE][-+]?\d+\b" "constant.numeric.float",
    mark r"\b0[xX]\h+\b" "constant.numeric.hex",
    mark r"\b\d+i?\b" "constant.numeric.integer",
    push r"\x60" "punctuation.definition.string.begin" ["raw text"],
    push r"\x22" "punctuation.definition.string.begin" ["text"],
    push r"'" "punctuation.definition.string.begin" ["rune"]]),
  ("raw text", context [
    pop r"\x60" "punctuation.definition.string.end",
    use "placeholders"] |>.whole "string.quoted.other" |>.bare),
  ("text", context [
    pop r"\x22" "punctuation.definition.string.end",
    use "escapes",
    use "placeholders",
    pop r"$\n?" "invalid.illegal.unclosed-string"] |>.whole "string.quoted.double" |>.bare),
  ("rune", context [
    pop r"'" "punctuation.definition.string.end",
    mark r"\\." "constant.character.escape",
    pop r"$\n?" "invalid.illegal.unclosed-string"] |>.whole "string.quoted.single" |>.bare),
  ("escapes", context [
    mark r"\\(?:[abfnrtv\\'\x22]|x\h{2}|[0-7]{3}|u\h{4}|U\h{8})" "constant.character.escape",
    mark r"\\." "invalid.illegal.unknown-escape"]),
  ("placeholders", context [
    mark r"%(?:\[\d+\])?[-+#0 ]*(?:\d+|\*)?(?:\.(?:\d+|\*)?)?[vTtbcdoqxXUeEfFgGspw%]"
      "constant.other.placeholder"])]

/-- The contexts of statements. -/
def statements : Grammar := [
  ("statements", context [
    push r"\bfunc\b" "storage.type" ["function end", "parameters", "function name"],
    push r"\btype\b" "storage.type" ["type name"],
    push r"\bstruct\b" "storage.type" ["structure"],
    push r"\binterface\b" "storage.type" ["interface"],
    push r"\b(?:var|const)\b(?!\s*\()" "storage.type" ["declared names"],
    push r"\b(?:var|const)\b" "storage.type" ["declared group"],
    mark (name ++ r"(?=(?:\s*,\s*[[:alpha:]_]\w*)*\s*:=)") "variable.other.assignment",
    mark r":=" "keyword.operator.assignment",
    use "expressions"]),
  ("expressions", context [
    push r"\bfunc\b" "storage.type" ["function end", "parameters", "function name"],
    mark (r"\b(?:break|case|continue|default|defer|else|fallthrough|for|go|goto|if|import|" ++
      r"package|range|return|select|switch)\b") "keyword.control",
    push r"\bstruct\b" "storage.type" ["structure"],
    push r"\binterface\b" "storage.type" ["interface"],
    mark r"\b(?:chan|const|map|type|var)\b" "storage.type",
    mark types "storage.type",
    mark (r"\b(?:append|cap|close|complex|copy|delete|imag|len|make|new|panic|print|println|" ++
      r"real|recover)\b(?=\s*\()") "support.function.builtin",
    mark (name ++ r"(?=\s*\()") "variable.function",
    use "literals",
    mark r"<-" "keyword.operator.channel",
    mark r"\.\.\." "punctuation.separator.variadic",
    mark r"<<=|>>=|&\^=|[-+*/%&|^]=" "keyword.operator.assignment.augmented",
    mark r"==|!=|<=|>=|&&|\|\||\+\+|--|<<|>>|&\^|[-+*/%&|^<>!=]" "keyword.operator",
    mark name "",
    push r"\(" "punctuation.section.group.begin" ["group"],
    push r"\[" "punctuation.section.brackets.begin" ["brackets"],
    push r"\x7b" "punctuation.section.block.begin" ["block"]]),
  ("group", context [
    pop r"\)" "punctuation.section.group.end",
    use "statements"]),
  ("brackets", context [
    pop r"\]" "punctuation.section.brackets.end",
    use "statements"]),
  ("block", context [
    pop r"\x7d" "punctuation.section.block.end",
    use "statements"]),
  ("type name", context [
    pop name "entity.name.type",
    popElse]),
  ("declared names", context [
    mark r"," "punctuation.separator",
    mark name "variable.other.declaration",
    set r"(?=\S)" "" ["declaration rest"],
    pop r"\n" ""]),
  ("declaration rest", context [
    pop r"$" "",
    use "expressions"]),
  ("declared group", context [
    set r"\(" "punctuation.section.group.begin" ["declarations"],
    popElse]),
  ("declarations", context [
    pop r"\)" "punctuation.section.group.end",
    mark (r"^\s*(" ++ name ++ ")") "" |>.parts [(1, "variable.other.declaration")],
    use "statements"]),
  ("structure", context [
    set r"\x7b" "punctuation.section.block.begin" ["fields"],
    popElse]),
  ("fields", context [
    pop r"\x7d" "punctuation.section.block.end",
    mark (r"(?:^|(?<=,))\s*(" ++ name ++ r")(?=\s*,|\s+[\w*\[(<])") ""
      |>.parts [(1, "variable.other.member.declaration")],
    use "field types"]),
  ("field types", context [
    mark r"\*" "",
    push r"\bfunc\b" "storage.type" ["function end", "parameters"],
    use "expressions"]),
  ("interface", context [
    set r"\x7b" "punctuation.section.block.begin" ["methods"],
    popElse]),
  ("methods", context [
    pop r"\x7d" "punctuation.section.block.end",
    mark (name ++ r"(?=\s*\()") "",
    use "expressions"])]

/-- The contexts of functions. -/
def functions : Grammar := [
  ("function name", context [
    push r"\((?=[^)]*\)\s*[[:alpha:]_]\w*\s*\()" "punctuation.section.group.begin"
      ["parameter list"],
    pop (name ++ r"(?=\s*\()") "entity.name.function",
    popElse]),
  ("parameters", context [
    set r"\(" "punctuation.section.group.begin" ["parameter list"],
    popElse]),
  ("parameter list", context [
    pop r"\)" "punctuation.section.group.end",
    mark r"\b(?:chan|interface|map|struct)\b" "storage.type",
    mark r"\bfunc\b(?=\s*\()" "",
    mark r"\.\.\." "punctuation.separator.variadic",
    mark r"\*|<-" "keyword.operator",
    mark types "storage.type",
    mark (name ++ r"(?=(?:\s*,\s*[[:alpha:]_]\w*)*\s+[\w*\[(.<])") "variable.parameter",
    mark name "",
    push r"\x7b" "punctuation.section.block.begin" ["block"],
    push r"\[" "punctuation.section.brackets.begin" ["brackets"]]),
  ("function end", context [
    mark types "storage.type",
    popElse])]

end Go

open Go

/-- The grammar of Go. -/
def go : Grammar :=
  [("main", context [
    use "statements",
    mark r"[\)\]\x7d]" "invalid.illegal.stray-bracket-end"])] ++ literals ++ statements ++ functions

end

/-! ### Pascal

Case does not count.
-/

/-- The grammar of Pascal. -/
def pascal : Grammar := [
  ("main", context [
    mark (r"(?i)\b(?:absolute|abstract|all|and|and_then|array|as|asm|asmname|attribute|begin|" ++
      r"bindable|case|class|const|constructor|destructor|div|do|else|end|except|export|exports|" ++
      r"external|far|file|finalization|finally|for|forward|goto|if|implementation|import|in|" ++
      r"inherited|initialization|interface|interrupt|is|label|library|mod|module|name|near|nil|" ++
      r"not|object|of|only|operator|or|or_else|otherwise|packed|pow|private|program|property|" ++
      r"protected|public|published|qualified|record|repeat|resident|restricted|segment|set|shl|" ++
      r"shr|then|to|try|type|unit|until|uses|value|var|view|virtual|while|with|xor)\b")
      "keyword.control",
    mark r"(?i)\b(function|procedure)\b\s+(\w+(?:\.\w+)?)" "" |>.parts [
      (1, "storage.type.prototype"), (2, "entity.name.function.prototype")],
    mark (r"\b(?:0[xX]\h*|(?:\d+\.?\d*|\.\d+)(?:[eE][-+]?\d+)?)" ++
      r"(?:L|l|UL|ul|u|U|F|f|ll|LL|ull|ULL)?\b") "constant.numeric",
    mark r"--.*$\n?" "comment.line.double-dash.one",
    mark r"//.*$\n?" "comment.line.double-slash.two",
    push r"\(\*" "punctuation.definition.comment" ["block comment"],
    push r"\x7b" "punctuation.definition.comment" ["braced comment"],
    push r"\x22" "punctuation.definition.string.begin" ["double quoted"],
    push r"'" "punctuation.definition.string.begin" ["single quoted"]]),
  ("block comment", context [pop r"\*\)" "punctuation.definition.comment"]
    |>.whole "comment.block.one"),
  ("braced comment", context [pop r"\x7d" "punctuation.definition.comment"]
    |>.whole "comment.block.two"),
  ("double quoted", context [
    pop r"\x22" "punctuation.definition.string.end",
    mark r"\\." "constant.character.escape"] |>.whole "string.quoted.double"),
  ("single quoted", context [
    mark r"''" "constant.character.escape.apostrophe",
    pop r"'" "punctuation.definition.string.end"] |>.whole "string.quoted.single")]

end DocPreview.Highlight.Language

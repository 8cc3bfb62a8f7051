import DocPreview.Highlight.Grammar

/-!
# The grammars of JavaScript and JSON

Statements and expressions are contexts: one that is over leaves its context without reading, so
that what follows is read by the context around it. After a value an operator is expected, which
tells a division from a regular expression.
-/

namespace DocPreview.Highlight.Language

open Grammar

/-! ### JavaScript -/

namespace JavaScript

/-- Where a word ends. -/
def wordEnd : String := r"(?![_$[:alnum:]])"

/-- A name. -/
def name : String := r"(?:[_$[:alpha:]][_$[:alnum:]]*(?![_$[:alnum:]]))"

/-- The words that are no names. -/
def reserved : String :=
  "(?:(?:break|case|catch|class|const|continue|debugger|default|delete|do|else|export|extends|" ++
    "finally|for|function|if|import|in|instanceof|new|return|super|switch|this|throw|try|typeof|" ++
    "var|void|while|with|yield|enum|null|true|false)" ++ wordEnd ++ ")"

/-- A name that is no reserved word. -/
def plainName : String := "(?:(?!" ++ reserved ++ ")" ++ name ++ ")"

/-- One of some words. -/
def words (ws : String) : String := "(?:" ++ ws ++ ")" ++ wordEnd

/-- What starts a function. -/
def functionAhead : String := "(?=(?:async\\s+)?function" ++ wordEnd ++ ")"

/-- A function with an arrow. -/
def arrow : String :=
  "(?:async" ++ wordEnd ++ r"\s*)?(?:" ++ plainName ++
    r"|\((?:[^()]|\((?:[^()]|\([^()]*\))*\))*\))\s*=>"

/-- A function of either kind. -/
def functionValue : String := "(?:(?:async\\s+)?function" ++ wordEnd ++ "|" ++ arrow ++ ")"

/-- Operators between two values. -/
def binary : String :=
  r"(?:>>>=?|<<=?|>>=?|===?|!==?|=(?!>)|<=|>=|<|>|&&|\|\||\*\*=?|[-+*/%&|^]=?)"

/-- The contexts of names that are bound by patterns; `scope` is the scope of such a name, and
`functionScope` that of the name of a function. -/
def patterns (kind scope functionScope : String) : Grammar := [
  (kind ++ " pattern", context [
    set r"\[" "" [kind ++ " array"],
    set r"\x7b" "" [kind ++ " object"],
    pop (plainName ++ r"(?=\s*=\s*" ++ functionValue ++ ")") functionScope,
    pop plainName scope,
    popElse]),
  (kind ++ " array", context [
    pop r"\]" "",
    mark r"," "punctuation.separator.comma",
    mark r"\.\.\." "keyword.operator.spread",
    push r"(?=[_$[:alpha:]\[\x7b])" "" ["initializer", kind ++ " pattern"]]),
  (kind ++ " object", context [
    pop r"\x7d" "",
    mark r"," "punctuation.separator.comma",
    push (name ++ r"(?=\s*:)") "meta.object-literal.key"
      ["initializer", kind ++ " pattern", "pattern colon"],
    push r"\[" "" ["initializer", kind ++ " pattern", "pattern colon", "index"],
    push r"(?=['\x22])" "" ["initializer", kind ++ " pattern", "pattern colon", "text"],
    push plainName scope ["initializer"]])]

/-- The contexts of expressions; `rest` is the context behind a value. -/
def expressions : Grammar := [
  ("expression", context [set "" "" ["after value", "value"]] |>.bare),
  ("argument", context [set "" "" ["after argument", "value"]] |>.bare),
  ("value", context [
    set r"/(?![/*])" "punctuation.definition.string.begin" ["regexp"],
    set r"(?=['\x22])" "" ["text"],
    set r"\x60" "punctuation.definition.string.begin" ["template"],
    pop r"0[xX]\h+" "constant.numeric.hex",
    pop r"0[bB][01]+" "constant.numeric.binary",
    pop r"0[oO][0-7]+" "constant.numeric.octal",
    pop r"(?:\d+\.?\d*|\.\d+)(?:[eE][-+]?\d+)?" "constant.numeric.decimal",
    mark r"\.\.\." "keyword.operator.spread",
    mark r"\+\+|--|[-+]" "keyword.operator.arithmetic",
    mark r"~" "keyword.operator.bitwise",
    mark r"!" "keyword.operator.logical",
    mark (words "new") "keyword.operator.word.new",
    mark (words "typeof|void|delete") "keyword.operator",
    mark (words "yield" ++ r"(?:\s*\*)?") "keyword.control.flow",
    set (words "class") "storage.type.class" ["class body", "class extends", "class name"],
    set functionAhead "" ["function"],
    set ("(?=" ++ arrow ++ ")") "" ["arrow body", "arrow parameters"],
    set r"\x7b" "punctuation.section.block.begin" ["object"],
    set r"\[" "punctuation.section.brackets.begin" ["array"],
    set r"\(" "punctuation.section.group.begin" ["parenthesized"],
    pop (words "true|false|null|undefined|NaN|Infinity") "constant.language",
    pop (words "this") "variable.language.this",
    pop (words "super" ++ r"(?=\s*\()") "support.function",
    pop (words "super") "variable.language.super",
    pop (words "arguments") "variable.language.arguments",
    set (words "console") "support.type.object.console" ["console method"],
    set (words "Math") "support.constant.builtin" ["library method"],
    set (words "JSON") "support.constant.builtin" ["library method"],
    set (words "Object|Array|Date|Number|String|Promise|Symbol|Reflect") "support.class.builtin"
      ["library method"],
    pop (words <| "Boolean|Error|EvalError|Function|Map|Proxy|RangeError|ReferenceError|RegExp|" ++
      "Set|SyntaxError|TypeError|URIError|WeakMap|WeakSet|ArrayBuffer|DataView|Float32Array|" ++
      "Float64Array|Int8Array|Int16Array|Int32Array|Uint8Array|Uint16Array|Uint32Array|" ++
      "Uint8ClampedArray|Generator|GeneratorFunction|Intl") "support.class.builtin",
    pop (words <| "eval|isFinite|isNaN|parseFloat|parseInt|decodeURI|decodeURIComponent|" ++
      "encodeURI|encodeURIComponent|escape|unescape" ++ r"(?=\s*\()") "support.function",
    pop (words <| "clearInterval|clearTimeout|setInterval|setTimeout|alert|confirm|prompt" ++
      r"(?=\s*\()") "support.function.dom",
    pop (words "window|document|navigator|screen|history|location|frames|self|parent|top|event")
      "support.type.object.dom",
    pop (words "module|exports|process|global") "support.type.object.node",
    pop (plainName ++ r"(?=\s*\()") "variable.function",
    pop plainName "variable.other.readwrite",
    popElse]),
  ("after value", context [
    push r"," "punctuation.separator.comma" ["value"],
    use "after argument"]),
  ("after argument", context [
    push r"\.(?!\.)" "punctuation.accessor" ["property"],
    push r"\(" "punctuation.section.group.begin" ["arguments"],
    push r"\[" "punctuation.section.brackets.begin" ["index"],
    push r"\x60" "punctuation.definition.string.begin" ["template"],
    mark r"\+\+|--" "keyword.operator.arithmetic",
    push r"\?" "keyword.operator.ternary" ["ternary", "argument"],
    push (words "instanceof|in|of") "keyword.operator" ["value"],
    push binary "keyword.operator" ["value"],
    popElse]),
  ("ternary", context [
    set r":" "keyword.operator.ternary" ["argument"],
    popElse]),
  ("property", context [
    pop (words "prototype") "support.constant.prototype",
    pop (words <| "getElementById|getElementsByClassName|getElementsByName|getElementsByTagName|" ++
      "querySelector|querySelectorAll|appendChild|" ++
      "createElement|createTextNode|getAttribute|setAttribute|removeAttribute|removeChild|" ++
      "replaceChild|insertBefore|cloneNode|hasChildNodes|write|writeln" ++ r"(?=\s*\()")
      "support.function.dom",
    pop (name ++ r"(?=\s*=\s*" ++ functionValue ++ ")") "entity.name.function",
    pop (name ++ r"(?=\s*\()") "variable.function",
    pop name "meta.property.object",
    popElse]),
  ("console method", context [
    pop ("(\\.)(" ++ words ("warn|info|log|error|time|timeEnd|assert|count|dir|group|" ++
      "groupCollapsed|groupEnd|profile|profileEnd|table|trace|timeStamp") ++ r")(?=\s*\()") ""
      |>.parts [(1, "punctuation.accessor"), (2, "support.function.console")],
    popElse]),
  ("library method", context [
    pop ("(\\.)(" ++ words ("abs|acos|acosh|asin|asin|atan|atanh|atan2|cbrt|ceil|cos|cosh|exp|" ++
      "expm1|floor|fround|hypot|log|log1p|log10|log2|max|min|pow|random|round|sign|sin|sinh|" ++
      "sqrt|tan|tanh|trunc|imul|clz32|parse|stringify|assign|create|defineProperties|" ++
      "defineProperty|freeze|getOwnPropertyDescriptor|getOwnPropertyNames|" ++
      "getPrototypeOf|is|isExtensible|isFrozen|isSealed|keys|preventExtensions|seal|" ++
      "setPrototypeOf|from|isArray|of|now|UTC|fromCharCode|fromCodePoint|raw|isFinite|" ++
      "isInteger|isNaN|isSafeInteger|parseFloat|parseInt|race|reject|resolve|all|for|keyFor") ++
      r")(?=\s*\()") "" |>.parts [(1, "punctuation.accessor"), (2, "support.function.builtin")],
    popElse]),
  ("arguments", context [
    pop r"\)" "punctuation.section.group.end",
    mark r"," "punctuation.separator.comma",
    push r"(?=\S)" "" ["argument"]]),
  ("parenthesized", context [
    pop r"\)" "punctuation.section.group.end",
    push r"(?=\S)" "" ["expression"]]),
  ("index", context [
    pop r"\]" "punctuation.section.brackets.end",
    push r"(?=\S)" "" ["expression"]]),
  ("array", context [
    pop r"\]" "punctuation.section.brackets.end",
    mark r"," "punctuation.separator.comma",
    push r"(?=\S)" "" ["argument"]]),
  ("object", context [
    pop r"\x7d" "punctuation.section.block.end",
    mark r"," "punctuation.separator.comma",
    push r"\.\.\." "keyword.operator.spread" ["argument"],
    push r":" "punctuation.separator.key-value" ["argument"],
    use "methods",
    mark (name ++ r"(?=\s*:\s*" ++ functionValue ++ ")") "entity.name.function",
    mark (name ++ r"(?=\s*:)") "meta.object-literal.key",
    mark r"\d+(?:\.\d*)?" "constant.numeric",
    push r"(?=['\x22])" "" ["text"],
    push r"\[" "punctuation.section.brackets.begin" ["computed name"],
    mark plainName "variable.other.readwrite",
    push r"=(?!=)" "keyword.operator.assignment" ["argument"]]),
  ("computed name", context [
    set r"\](?=\s*\()" "punctuation.section.brackets.end" ["function body", "function parameters"],
    pop r"\]" "punctuation.section.brackets.end",
    push r"(?=\S)" "" ["expression"]])]

/-- The contexts of literals. -/
def literals : Grammar := [
  ("text", context [
    set r"'" "punctuation.definition.string.begin" ["single quoted"],
    set r"\x22" "punctuation.definition.string.begin" ["double quoted"],
    popElse] |>.bare),
  ("single quoted", context [
    pop r"'" "punctuation.definition.string.end",
    use "escapes",
    pop r"\n" "invalid.illegal.newline"] |>.whole "string.quoted.single" |>.bare),
  ("double quoted", context [
    pop r"\x22" "punctuation.definition.string.end",
    use "escapes",
    pop r"\n" "invalid.illegal.newline"] |>.whole "string.quoted.double" |>.bare),
  ("escapes", context [
    mark r"\\(?:x\h{2}|u\h{4}|u\x7b\h+\x7d|[0-2][0-7]{0,2}|3[0-6][0-7]|37[0-7]?|[4-7][0-7]?|.|\n)"
      "constant.character.escape"]),
  ("template", context [
    pop r"\x60" "punctuation.definition.string.end",
    push r"\$\x7b" "punctuation.definition.template-expression.begin" ["interpolation"],
    use "escapes"] |>.whole "string.template" |>.bare),
  ("interpolation", context [
    pop r"\x7d" "punctuation.definition.template-expression.end",
    push r"(?=\S)" "" ["expression"]] |>.clear (.some 1) |>.whole "meta.template.expression"),
  ("regexp", context [
    pop r"(/)([gimyus]*)" "" |>.parts [(2, "keyword.other")],
    pop r"(?=$)" "",
    use "regexp items"] |>.whole "string.regexp" |>.bare),
  ("regexp items", context [
    mark r"\\[bB]|\^|\$" "keyword.control.anchor",
    mark r"\\[1-9]\d*" "keyword.other.back-reference",
    mark r"(?:[?+*]|\x7b(?:\d+,\d+|\d+,|,\d+|\d+)\x7d)\??" "keyword.operator.quantifier",
    mark r"\|" "keyword.operator.or",
    push r"\((?:\?[:=!]|\?<[=!])?" "punctuation.definition.group" ["regexp group"],
    push r"\[\^?" "" ["regexp set"],
    use "regexp classes"]),
  ("regexp group", context [
    pop r"\)" "punctuation.definition.group",
    pop r"(?=/|$)" "",
    use "regexp items"] |>.bare),
  ("regexp set", context [
    pop r"\]" "punctuation.definition.character-class",
    pop r"(?=$)" "",
    use "regexp classes"] |>.whole "constant.other.character-class.set" |>.bare),
  ("regexp classes", context [
    mark r"\\[wWsSdD]|\." "constant.other.character-class",
    mark r"\\(?:[0-7]{3}|x\h\h|u\h\h\h\h)" "constant.character.numeric",
    mark r"\\c[A-Z]" "constant.character.control",
    mark r"\\." "constant.character.escape.backslash"])]

/-- The contexts of functions and classes. -/
def definitions : Grammar := [
  ("function", context [
    mark (words "async") "storage.modifier.async",
    set (words "function") "storage.type.function"
      ["function body", "function parameters", "function name"],
    popElse]),
  ("function name", context [
    mark r"\*" "keyword.generator.asterisk",
    pop plainName "entity.name.function",
    popElse]),
  ("function parameters", context [
    set r"\(" "punctuation.section.group.begin" ["parameters"],
    popElse]),
  ("parameters", context [
    pop r"\)" "punctuation.section.group.end",
    mark r"," "punctuation.separator.parameter.function",
    mark r"\.\.\." "keyword.operator.spread",
    push r"(?=[_$[:alpha:]\[\x7b])" "" ["initializer", "parameter pattern"]]),
  ("function body", context [
    set r"\x7b" "punctuation.section.block.begin" ["block"],
    popElse]),
  ("arrow parameters", context [
    mark (words "async" ++ r"(?!\s*=>)") "storage.modifier.async",
    set r"\(" "punctuation.section.group.begin" ["parameters"],
    pop plainName "variable.parameter.function",
    popElse]),
  ("arrow body", context [
    mark r"=>" "storage.type.function.arrow",
    set r"\x7b" "punctuation.section.block.begin" ["block"],
    set r"(?=\S)" "" ["argument"]]),
  ("class name", context [
    pop ("(?!extends" ++ wordEnd ++ ")" ++ plainName) "entity.name.class",
    popElse]),
  ("class extends", context [
    set (words "extends") "storage.modifier.extends" ["parent class"],
    popElse]),
  ("parent class", context [
    mark name "entity.other.inherited-class",
    mark r"\." "punctuation.accessor",
    popElse]),
  ("class body", context [
    set r"\x7b" "punctuation.section.block.begin" ["class members"],
    popElse]),
  ("class members", context [
    pop r"\x7d" "punctuation.section.block.end",
    mark r";" "punctuation.terminator.statement",
    mark (words "static" ++ r"(?!\s*\()") "storage.modifier",
    push (words "constructor" ++ r"(?=\s*\()") "entity.name.function.constructor"
      ["function body", "function parameters"],
    use "methods"]),
  ("methods", context [
    mark (words "get|set" ++ "(?=\\s*(?:" ++ name ++ r"|['\x22\[]))") "storage.type.accessor",
    mark (words "async" ++ r"(?=\s*(?:\*|['\x22\[]|" ++ name ++ "))") "entity.name.function",
    mark r"\*" "keyword.generator.asterisk",
    push (name ++ r"(?=\s*\()") "entity.name.function" ["function body", "function parameters"],
    push r"'(?=(?:[^\\'\n]|\\.)*'\s*\()" "string.quoted.single punctuation.definition.string.begin"
      ["function body", "function parameters", "single quoted name"],
    push r"\x22(?=(?:[^\\\x22\n]|\\.)*\x22\s*\()"
      "string.quoted.double punctuation.definition.string.begin"
      ["function body", "function parameters", "double quoted name"],
    push r"\[(?=[^\]]*\]\s*\()" "punctuation.section.brackets.begin" ["computed name"]]),
  ("single quoted name", context [
    pop r"'" "string.quoted.single punctuation.definition.string.end",
    use "escapes",
    pop r"\n" "invalid.illegal.newline"] |>.content "string.quoted.single entity.name.function"
      |>.bare),
  ("double quoted name", context [
    pop r"\x22" "string.quoted.double punctuation.definition.string.end",
    use "escapes",
    pop r"\n" "invalid.illegal.newline"] |>.content "string.quoted.double entity.name.function"
      |>.bare)]

/-- The contexts of statements. -/
def statements : Grammar := [
  ("statements", context [
    mark r"[)\x7d\]]" "invalid.illegal.stray-bracket-end",
    push r"(?=\S)" "" ["statement"]]),
  ("statement", context [
    pop r";" "punctuation.terminator.statement.empty",
    set (words "import") "keyword.control.import-export" ["semicolon", "import"],
    set (words "export") "keyword.control.import-export" ["export"],
    set (r"else\s+if" ++ wordEnd) "keyword.control.conditional" ["statement", "condition"],
    set (words "if|while|with") "keyword.control" ["statement", "condition"],
    set (words "switch") "keyword.control" ["switch body", "condition"],
    set (words "for") "keyword.control.loop" ["statement", "for head"],
    set (words "do") "keyword.control.loop" ["do while", "statement"],
    set (words "else|try|finally") "keyword.control" ["statement"],
    set (words "catch") "keyword.control" ["statement", "condition"],
    set (words "return|throw") "keyword.control.flow" ["semicolon", "optional expression"],
    set (words "break|continue") "keyword.control.flow" ["semicolon", "label reference"],
    set (words "debugger") "keyword.other.debugger" ["semicolon"],
    mark (words "await") "keyword.control.flow",
    set r"\x7b" "punctuation.section.block.begin" ["block"],
    pop ("(" ++ plainName ++ r")\s*(:)") ""
      |>.parts [(1, "entity.name.label"), (2, "punctuation.separator")],
    set (words "const|let|var") "storage.type" ["semicolon", "bindings"],
    set (words "class") "storage.type.class" ["class body", "class extends", "class name"],
    set functionAhead "" ["function"],
    set ("(?=" ++ name ++ r"(?:\s*\.\s*" ++ name ++ r")+\s*=\s*" ++ functionValue ++ ")") ""
      ["semicolon", "after value", "assigned function"],
    set r"(?=\S)" "" ["semicolon", "expression"]]),
  ("assigned function", context [
    pop (name ++ r"(?=\s*=)") "entity.name.function",
    mark (words "prototype") "support.constant.prototype",
    mark (name ++ r"(?=\s*\.\s*(?:prototype\s*\.\s*)?" ++ name ++ r"\s*=)") "support.class",
    mark (words "this") "variable.language.this",
    mark name "variable.other.readwrite",
    mark r"\." "punctuation.accessor",
    popElse]),
  ("semicolon", context [
    pop r";" "punctuation.terminator.statement",
    popElse]),
  ("block", context [
    pop r"\x7d" "punctuation.section.block.end",
    use "statements"]),
  ("condition", context [
    set r"\(" "punctuation.section.group.begin" ["parenthesized"],
    popElse]),
  ("optional expression", context [
    pop r"(?=\s*$)" "",
    set "" "" ["expression"]]),
  ("label reference", context [
    pop r"(?=\s*$)" "",
    pop plainName "variable.label",
    popElse]),
  ("do while", context [
    set (words "while") "keyword.control.loop" ["semicolon", "condition"],
    popElse]),
  ("for head", context [
    mark (words "await") "keyword.control.flow",
    set r"\(" "punctuation.section.group.begin" ["for parts"],
    popElse]),
  ("for parts", context [
    pop r"\)" "punctuation.section.group.end",
    mark r";" "punctuation.separator.expression",
    mark (words "of|in") "keyword.operator",
    push (words "const|let|var") "storage.type" ["bindings"],
    push r"(?=\S)" "" ["expression"]]),
  ("switch body", context [
    set r"\x7b" "punctuation.section.block.begin" ["clauses"],
    popElse]),
  ("clauses", context [
    pop r"\x7d" "punctuation.section.block.end",
    push (words "case") "keyword.control.switch" ["colon", "expression"],
    push (words "default") "keyword.control.switch" ["colon"],
    use "statements"]),
  ("colon", context [
    pop r":" "punctuation.separator",
    popElse]),
  ("pattern colon", context [
    pop r":" "punctuation.separator.key-value",
    popElse]),
  ("bindings", context [set r"(?=\S)" "" ["more bindings", "initializer", "binding pattern"]]),
  ("more bindings", context [
    set r"," "punctuation.separator.comma" ["bindings"],
    popElse]),
  ("initializer", context [
    set r"=(?![=>])" "keyword.operator.assignment" ["argument"],
    popElse]),
  ("import", context [
    push r"(?=['\x22])" "" ["text"],
    set r"(?=[(.])" "" ["expression"],
    mark r"," "punctuation.separator.comma",
    mark r"\*" "constant.other",
    mark (words "as|from|default") "keyword.control.import-export",
    push r"\x7b" "punctuation.section.block.begin" ["imported names"],
    mark plainName "variable.other.readwrite",
    popElse]),
  ("imported names", context [
    pop r"\x7d" "punctuation.section.block.end",
    mark r"," "punctuation.separator.comma",
    mark (words "as") "keyword.control.import-export",
    mark name "variable.other.readwrite"]),
  ("exported names", context [
    pop r"\x7d" "punctuation.section.block.end",
    mark r"," "punctuation.separator.comma",
    mark (words "as|default") "keyword.control.import-export",
    mark name "variable.other.readwrite"]),
  ("export", context [
    set (words "default") "keyword.control.import-export" ["exported value"],
    set r"\x7b" "punctuation.section.block.begin" ["semicolon", "import", "exported names"],
    set r"(?=\*)" "" ["semicolon", "import"],
    set r"(?=\S)" "" ["statement"]]),
  ("exported value", context [
    set (words "class") "storage.type.class" ["class body", "class extends", "class name"],
    set functionAhead "" ["function"],
    set r"(?=\S)" "" ["semicolon", "expression"]])]

/-- The contexts of comments. -/
def comments : Grammar := [
  ("prototype", context [use "comments"]),
  ("comments", context [
    push r"/\*" "punctuation.definition.comment.begin" ["block comment"],
    push r"//" "punctuation.definition.comment" ["line comment"]]),
  ("block comment", context [pop r"\*/" ""] |>.whole "comment.block" |>.bare),
  ("line comment", context [pop r"\n" ""] |>.whole "comment.line.double-slash" |>.bare)]

end JavaScript

section

open JavaScript

/-- The grammar of JavaScript. -/
def javaScript : Grammar :=
  [("main", context [
    mark r"^#!.*$\n?" "comment.line.shebang",
    use "statements"])] ++
  comments ++ statements ++ patterns "binding" "variable.other.readwrite" "entity.name.function" ++
  patterns "parameter" "variable.parameter.function" "variable.parameter.function" ++
    expressions ++ literals ++ definitions

end

/-! ### JSON -/

/-- The grammar of JSON, with comments as in JavaScript. -/
def json : Grammar := [
  ("prototype", context [use "comments"]),
  ("comments", context [
    push r"/\*" "punctuation.definition.comment" ["block comment"],
    mark r"//.*$\n?" "comment.line.double-slash"]),
  ("block comment", context [pop r"\*/" ""] |>.whole "comment.block" |>.bare),
  ("main", context [use "value"]),
  ("value", context [
    mark r"\b(?:true|false|null)\b" "constant.language",
    mark r"-?(?:0|[1-9]\d*)(?:\.\d+)?(?:[eE][+-]?\d+)?" "constant.numeric",
    push r"\x22" "punctuation.definition.string.begin" ["string"],
    push r"\[" "punctuation.section.sequence.begin" ["sequence"],
    push r"\x7b" "punctuation.section.mapping.begin" ["mapping"]]),
  ("sequence", context [
    pop r"\]" "punctuation.section.sequence.end",
    use "value",
    mark r"," "punctuation.separator.sequence",
    mark r"[^\s\]]" "invalid.illegal"]),
  ("mapping", context [
    pop r"\x7d" "punctuation.section.mapping.end",
    push r"\x22" "punctuation.definition.string.begin" ["string"],
    push r":" "punctuation.separator.mapping.key-value" ["mapping value"],
    mark r"[^\s\x7d]" "invalid.illegal"]),
  ("mapping value", context [
    pop r",|\s?(?=\x7d)" "punctuation.separator.mapping.pair",
    use "value",
    mark r"\s(?=[^\s,])|[^\s,]" "invalid.illegal"]),
  ("string", context [
    pop r"\x22" "punctuation.definition.string.end",
    mark r"\\(?:[\x22\\/bfnrt]|u[0-9a-fA-F]{4})" "constant.character.escape",
    mark r"\\." "invalid.illegal",
    pop r"$\n?" "invalid.illegal"] |>.whole "string.quoted.double" |>.bare)]

end DocPreview.Highlight.Language

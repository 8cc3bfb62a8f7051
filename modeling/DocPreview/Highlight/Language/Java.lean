import DocPreview.Highlight.Language.Html

/-!
# The grammars of Java and of HTML with Java in it

A name that starts with a capital letter is one of a type. Members of classes are read in the body
of a class only. In HTML a directive takes all that follows it.
-/

namespace DocPreview.Highlight.Language

open Grammar

/-! ### Java -/

namespace Java

/-- A name. -/
def name : String := r"\b[[:alpha:]_$][\w$]*\b"

/-- The types of the language. -/
def basicType : String := r"\b(?:boolean|byte|char|short|int|float|long|double|void)\b"

/-- The words before a declaration. -/
def modifiers : String :=
  r"\b(?:public|private|protected|static|final|native|synchronized|strictfp|abstract|transient|" ++
    r"default|volatile)\b"

/-- The words before a declaration that can stand outside of classes. -/
def outerModifiers : String :=
  r"\b(?:public|private|protected|static|final|synchronized|abstract|default)\b"

/-- The contexts of comments. -/
def comments : Grammar := [
  ("prototype", context [use "comments"]),
  ("comments", context [
    mark r"/\*\*/" "comment.block.empty",
    push r"/\*\*\s*$" "punctuation.definition.comment.begin" ["documentation"],
    push r"/\*" "punctuation.definition.comment.begin" ["block comment"],
    mark r"//.*$\n?" "comment.line.double-slash"]),
  ("block comment", context [pop r"\*/" "punctuation.definition.comment.end"]
    |>.whole "comment.block" |>.bare),
  ("documentation", context [
    pop r"\*/" "punctuation.definition.comment.end",
    mark r"\*\s*(@\w+)" "" |>.parts [(1, "keyword.other.documentation")],
    mark r"\x7b(@\w+)" "" |>.parts [(1, "keyword.other.documentation.directive")],
    mark r"(</?)([a-zA-Z]\w*)" "" |>.parts [(2, "entity.name.tag")]]
      |>.whole "comment.block.documentation" |>.bare)]

/-- The contexts of literals. -/
def literals : Grammar := [
  ("literals", context [
    mark r"\b(?:true|false|null)\b" "constant.language",
    mark r"\b0[xX][\h_]+([lL]?)\b" "constant.numeric.integer.hexadecimal"
      |>.parts [(1, "storage.type.numeric")],
    mark r"\b0[bB][01_]+([lL]?)\b" "constant.numeric.integer.binary"
      |>.parts [(1, "storage.type.numeric")],
    mark r"(?:\b\d[\d_]*\.(?:\d[\d_]*)?|\.\d[\d_]*)(?:[eE][-+]?\d+)?([fFdD]?)(?![\w$])"
      "constant.numeric.float.decimal" |>.parts [(1, "storage.type.numeric")],
    mark r"\b\d[\d_]*[eE][-+]?\d+([fFdD]?)\b" "constant.numeric.float.decimal"
      |>.parts [(1, "storage.type.numeric")],
    mark r"\b\d[\d_]*([fFdD])\b" "constant.numeric.float.decimal"
      |>.parts [(1, "storage.type.numeric")],
    mark r"\b\d[\d_]*([lL]?)\b" "constant.numeric.integer.decimal"
      |>.parts [(1, "storage.type.numeric")],
    push r"\x22" "punctuation.definition.string.begin" ["text"],
    push r"'" "punctuation.definition.string.begin" ["character"]]),
  ("text", context [
    pop r"\x22" "punctuation.definition.string.end",
    use "escapes",
    pop r"(?=\n)" "invalid.illegal.newline"] |>.whole "string.quoted.double" |>.bare),
  ("character", context [
    pop r"'" "punctuation.definition.string.end",
    use "escapes",
    pop r"(?=\n)" "invalid.illegal.newline"] |>.whole "string.quoted.single" |>.bare),
  ("escapes", context [
    mark r"\\." "constant.character.escape"])]

/-- The contexts of annotations and types. -/
def types : Grammar := [
  ("annotations", context [
    push r"@(?!interface\b)" "punctuation.definition.annotation" ["annotation"]]),
  ("annotation", context [
    mark (name ++ r"(?=\s*\.)") "support.type.package",
    mark r"\." "punctuation.accessor.dot",
    set name "variable.annotation" ["annotation arguments"],
    pop r"(?=\S)" ""] |>.whole "meta.annotation"),
  ("annotation arguments", context [
    set r"\(" "punctuation.section.parens.begin" ["annotation values"],
    pop r"(?=\S)" ""] |>.whole "meta.annotation"),
  ("annotation values", context [
    pop r"\)" "punctuation.section.parens.end",
    mark r"\b[[:lower:]]\w*\b(?=\s*=)" "variable.parameter",
    use "expressions"] |>.whole "meta.annotation.parameters"),
  ("types", context [
    mark basicType "storage.type.primitive",
    push r"\b[[:upper:]][\w$]*\b(?=\s*<)" "support.class" ["type arguments start"],
    mark r"\b[[:upper:]_][[:upper:][:digit:]_]+\b(?!\s*[\w.<\[$])" "constant.other",
    mark r"\b[[:upper:]][\w$]*\b" "support.class",
    mark r"\[\s*\]" "storage.modifier.array"]),
  ("type parameters", context [
    pop r">" "punctuation.definition.generic.end",
    push r"\b(?:extends|super)\b" "keyword.declaration.extends" ["type bound"],
    mark name "variable.parameter.type",
    pop r"(?=[;)\x7b\x7d])" ""]),
  ("type bound", context [
    pop r"(?=[,>;)\x7b\x7d])" "",
    push r"<" "punctuation.definition.generic.begin" ["type arguments"],
    mark r"&" "keyword.operator",
    mark r"\b[[:upper:]][\w$]*\b" "support.class"]),
  ("type arguments start", context [
    set r"<" "punctuation.definition.generic.begin" ["type arguments"],
    popElse]),
  ("type arguments", context [
    pop r">" "punctuation.definition.generic.end",
    push r"<" "punctuation.definition.generic.begin" ["type arguments"],
    mark basicType "storage.type.primitive",
    mark r"\b(?:extends|super)\b" "keyword.declaration.extends",
    mark r"\?" "keyword.operator.wildcard",
    mark r"&" "keyword.operator",
    mark r"\b[[:upper:]][\w$]*\b" "support.class",
    pop r"(?=[;)\x7b\x7d])" ""])]

/-- The contexts of statements and expressions. -/
def statements : Grammar := [
  ("statements", context [
    use "declarations",
    push r"\x7b" "punctuation.section.block.begin" ["block"],
    use "expressions",
    mark r";" "punctuation.terminator"]),
  ("block", context [
    pop r"\x7d" "punctuation.section.block.end",
    mark outerModifiers "storage.modifier",
    use "statements"]),
  ("group", context [
    pop r"\)" "punctuation.section.parens.end",
    mark outerModifiers "storage.modifier",
    use "expressions",
    push r"\x7b" "punctuation.section.block.begin" ["block"]]),
  ("brackets", context [
    pop r"\]" "punctuation.section.brackets.end",
    use "expressions"]),
  ("expressions", context [
    use "annotations",
    use "literals",
    mark (r"\b(?:assert|break|case|continue|default|do|else|finally|for|if|return|switch|" ++
      r"throw|try|while)\b") "keyword.control",
    mark r"\bcatch\b(?!\s*\([^)]*\|)" "keyword.control.catch-exception",
    mark r"\binstanceof\b" "keyword.operator",
    push r"\bnew\b" "keyword.other.storage.new" ["created type"],
    mark r"\b(?:this|super)\b" "variable.language",
    mark outerModifiers "storage.modifier",
    push r"\(" "punctuation.section.parens.begin" ["group"],
    mark r"\[\s*\]" "storage.modifier.array",
    push r"\[" "punctuation.section.brackets.begin" ["brackets"],
    mark r"->" "storage.type.function.anonymous",
    mark ("(::)\\s*(" ++ name ++ ")") "" |>.parts [(2, "variable.function.reference")],
    mark r"\b[[:lower:]_$][\w$]*\b(?=\s*\()" "variable.function",
    use "types",
    mark (name ++ r"(?=\s*->)") "variable.parameter",
    mark name "",
    mark r"<<=|>>>?=|[-+*/%&|^]=" "keyword.operator.assignment.augmented",
    mark r"==|!=|<=|>=|&&|\|\||\+\+|--|<<|>>>?|[-+*/%&|^~!<>=?:]" "keyword.operator"]),
  ("created type", context [
    mark basicType "storage.type.primitive",
    push r"<" "punctuation.definition.generic.begin" ["type arguments"],
    mark r"\b[[:lower:]_$][\w$]*\b(?=\s*\.)" "support.type.package",
    mark r"\." "punctuation.accessor.dot",
    mark name "support.class",
    set r"\(" "punctuation.section.parens.begin" ["anonymous class", "group"],
    push r"\[" "punctuation.section.brackets.begin" ["brackets"],
    popElse]),
  ("anonymous class", context [
    set r"\x7b" "punctuation.section.block.begin" ["members"],
    popElse])]

/-- The contexts of packages, imports and classes. -/
def declarations : Grammar := [
  ("declarations", context [
    push r"\bpackage\b" "keyword.other.package" ["package"],
    push r"\bimport\b" "keyword.control.import" ["import"],
    push r"\bclass\b" "storage.type" ["class body", "class relations", "class name"],
    push r"\b(?:@?interface)\b" "storage.type" ["class body", "class relations", "interface name"],
    push r"@interface\b" "storage.type" ["class body", "class relations", "interface name"],
    push r"\benum\b(?=\s+\w)" "storage.type"
      ["enumeration body", "class relations", "enumeration name"]]),
  ("package", context [
    pop r";" "punctuation.terminator",
    mark name "entity.name.namespace",
    mark r"\." "punctuation.accessor.dot",
    popElse]),
  ("import", context [
    mark r"\bstatic\b" "keyword.control.import.static",
    mark r"\b[[:lower:]_$][\w$]*(?:\.[[:lower:]_$][\w$]*)*\b" "support.type.package",
    mark r"\b[[:upper:]][\w$]*\b" "support.class.import",
    mark r"\." "punctuation.accessor.dot",
    mark r"\*" "",
    pop r"(?=[^\s\w.*])" ""]),
  ("class name", context [pop name "entity.name.class", popElse]),
  ("interface name", context [pop name "entity.name.interface", popElse]),
  ("enumeration name", context [pop name "entity.name.enum", popElse]),
  ("class relations", context [
    push r"<" "punctuation.definition.generic.begin" ["type parameters"],
    push r"\bextends\b" "keyword.declaration.extends" ["inherited"],
    push r"\bimplements\b" "keyword.declaration.implements" ["inherited"],
    pop r"(?=[\x7b;])" "",
    popElse]),
  ("inherited", context [
    pop r"(?=\b(?:extends|implements)\b|[\x7b;])" "",
    push r"<" "punctuation.definition.generic.begin" ["type arguments"],
    mark r"\b[[:lower:]_$][\w$]*\b(?=\s*\.)" "support.type.package",
    mark r"\b[[:upper:]][\w$]*\b" "entity.other.inherited-class",
    mark r"[.,]" "",
    pop r"(?=[^\s\w])" ""]),
  ("class body", context [
    set r"\x7b" "punctuation.section.block.begin" ["members"],
    popElse]),
  ("enumeration body", context [
    set r"\x7b" "punctuation.section.block.begin" ["enumerators"],
    popElse]),
  ("enumerators", context [
    pop r"\x7d" "punctuation.section.block.end",
    set r";" "punctuation.terminator" ["members"],
    use "annotations",
    push r"\(" "punctuation.section.parens.begin" ["group"],
    push r"\x7b" "punctuation.section.block.begin" ["members"],
    mark name "entity.name.constant"]),
  ("members", context [
    pop r"\x7d" "punctuation.section.block.end",
    use "declarations",
    use "annotations",
    mark modifiers "storage.modifier",
    push r"\x7b" "punctuation.section.block.begin" ["block"],
    push r"<" "punctuation.definition.generic.begin" ["type parameters"],
    push r"\b[[:upper:]][\w$]*\b(?=\s*\()" "entity.name.function.constructor"
      ["method end", "parameters"],
    push (name ++ r"(?=\s*\()") "entity.name.function" ["method end", "parameters"],
    use "types",
    push r"=" "keyword.operator.assignment" ["field value"],
    mark name "",
    mark r";" "punctuation.terminator"]),
  ("field value", context [
    pop r"(?=[;,\x7d])" "",
    push r"\x7b" "punctuation.section.block.begin" ["array"],
    use "expressions"]),
  ("array", context [
    pop r"\x7d" "punctuation.section.block.end",
    push r"\x7b" "punctuation.section.block.begin" ["array"],
    use "expressions"]),
  ("parameters", context [
    set r"\(" "punctuation.section.parens.begin" ["parameter list"],
    popElse]),
  ("parameter list", context [
    pop r"\)" "punctuation.section.parens.end",
    use "annotations",
    mark r"\bfinal\b" "storage.modifier",
    mark r"\.\.\." "keyword.operator.variadic",
    use "types",
    push r"<" "punctuation.definition.generic.begin" ["type arguments"],
    mark name "variable.parameter"]),
  ("method end", context [
    push r"\bthrows\b" "keyword.declaration.throws" ["thrown"],
    push r"\bdefault\b" "keyword.declaration.default" ["field value"],
    set r"\x7b" "punctuation.section.block.begin" ["block"],
    pop r"(?=[;\x7d])" "",
    popElse]),
  ("thrown", context [
    pop r"(?=[\x7b;])" "",
    mark r"\b[[:lower:]_$][\w$]*\b(?=\s*\.)" "support.type.package",
    mark r"\b[[:upper:]][\w$]*\b" "support.class",
    mark r"[.,]" "",
    popElse])]

end Java

section

open Java

/-- The grammar of Java. -/
def java : Grammar :=
  [("main", context [
    mark outerModifiers "storage.modifier",
    use "statements",
    mark r"[\)\]\x7d]" "invalid.illegal.stray-bracket-end"])] ++
  comments ++ literals ++ types ++ statements ++ declarations

/-- The grammar of documentation comments. -/
def javaDoc : Grammar :=
  ("main", context [
    push r"/\*\*\s*$" "punctuation.definition.comment.begin" ["documentation"]]) ::
      comments.filter fun (name, _) => name = "documentation"

end

/-! ### Java in HTML -/

/-- The grammar of HTML in which code in Java stands between tags with percent signs. -/
def jsp : Grammar :=
  [("main", context [push "" "" ["html:main"] |>.over "code tags"]),
   ("code tags", context [
    push r"<%--" "punctuation.definition.comment.begin" ["code comment"],
    push r"(<%@)\s(?=(?:attribute|include|page|tag|taglib|variable)\s)" ""
      ["directive", "directive name"],
    push r"<%[!=]?" "punctuation.section.embedded.begin" ["code end", "java:main"]
      |>.over "code escape"]),
   ("code comment", context [pop r"--%>" "punctuation.definition.comment.end"]
    |>.whole "comment.block"),
   ("directive name", context [pop r"\w+" "keyword.control", popElse]),
   ("directive", context [
    mark r"\w+" "constant.other.directive.attribute",
    mark r"=" "keyword.operator.assignment",
    mark r"\x22[^\x22\n]*\x22|'[^'\n]*'" "string.quoted"]),
   ("code escape", context [pop r"(?=%>)" ""]),
   ("code end", context [
    pop r"%>" "punctuation.section.embedded.end",
    popElse])] ++ html.embedded "html" ++ java.embedded "java"

end DocPreview.Highlight.Language

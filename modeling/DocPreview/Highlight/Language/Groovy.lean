import DocPreview.Highlight.Language.Java

/-!
# The grammar of Groovy

Classes, variables and methods are seen by what follows in the same line; all else is read word by
word.
-/

namespace DocPreview.Highlight.Language

open Grammar

namespace Groovy

/-- The words before a declaration. -/
def modifiers : String :=
  "(?:private|protected|public|native|synchronized|abstract|threadsafe|transient|static|final)"

/-- The types of the language. -/
def primitives : String := "(?:void|boolean|byte|char|short|int|float|long|double)"

/-- The name of a type: it starts with a large letter and has a small one. -/
def typeName : String := r"[A-Z]+\w*[a-z]+\w*"

/-- The start of the declaration of a variable. -/
def variableAhead : String :=
  "(?=(?:" ++ modifiers ++ "|def|" ++ primitives ++ r"|(?:[a-z]\w*\.)*[A-Z]+\w*)\s+" ++
    r"[\w\d_<>\[\],\s]+(?:=|$))"

/-- The start of the definition of a method. -/
def methodAhead : String :=
  r"(?:^|(?<=[;\x7b]))(?=\s*(?:" ++ modifiers ++ "|def|(?:" ++ primitives ++
    r"|@?(?:[a-zA-Z]\w*\.)*[A-Z]+\w*)[\[\]]*(?:<.*>)?)\s+(?:[^=]+\s+)?\w+\s*\()"

/-- The contexts of a file. -/
def outline : Grammar := [
  ("main", context [
    mark r"^(#!).+$\n" "comment.line.hashbang",
    mark r"^\s*(package)\b(?:\s*([^ ;$]+)\s*(;)?)?" ""
      |>.parts [(1, "keyword.other.package"), (2, "storage.modifier.package")],
    push r"(import static)\b\s*" "" ["import"] |>.parts [(1, "keyword.other.import.static")],
    push r"(import)\b\s*" "" ["import"] |>.parts [(1, "keyword.other.import")],
    use "all"]),
  ("import", context [pop r"\s*(?:$|(?=%>)|;)" ""] |>.content "storage.modifier.import"),
  ("all", context [
    use "comments",
    push r"(?:\b|(?<!\w))(?=\w?[\w\s]*(?:class|@?interface|enum)\s+\w+)" "" ["class"],
    push variableAhead "" ["variable"],
    push methodAhead "" ["method"],
    use "annotations",
    use "code"]),
  ("comments", context [
    mark r"/\*\*/" "comment.block.empty",
    use "documentation:main",
    push r"/\*" "punctuation.definition.comment" ["block comment"],
    mark r"//.*$\n?" "comment.line.double-slash"]),
  ("block comment", context [pop r"\*/" "punctuation.definition.comment"]
    |>.whole "comment.block"),
  ("annotations", context [
    push r"(?<!\.)(@[^ (]+)(\()" "" ["annotation"] |>.parts [(1, "storage.type.annotation")],
    mark r"(?<!\.)@\S+" "storage.type.annotation"]),
  ("annotation", context [
    pop r"\)" "",
    mark r"(\w*)\s*(=)" ""
      |>.parts [(1, "constant.other.key"), (2, "keyword.operator.assignment")],
    use "values",
    mark r"," ""])]

/-- The contexts of declarations. -/
def declarations : Grammar := [
  ("modifiers", context [
    mark ("\\b" ++ modifiers ++ "\\b") "storage.modifier"]),
  ("class", context [
    pop r"\x7d" "punctuation.section.class.end",
    use "modifiers",
    use "comments",
    mark r"(class|@?interface|enum)\s+(\w+)" ""
      |>.parts [(1, "storage.modifier"), (2, "entity.name.type.class")],
    push r"extends" "storage.modifier.extends" ["parent"],
    push r"(implements)\s" "" ["interfaces"] |>.parts [(1, "storage.modifier.implements")],
    push r"\x7b" "" ["class body"]]),
  ("parent", context [
    pop r"(?=\x7b|implements)" "",
    use "inherited types",
    use "comments"]),
  ("interfaces", context [
    pop r"(?=\s*extends|\x7b)" "",
    use "inherited types",
    use "comments"]),
  ("inherited types", context [
    push (r"\b((?:[a-zA-Z]\w*\.)*" ++ typeName ++ ")<") "" ["inherited arguments"],
    mark (r"\b(?:[a-zA-Z]\w*(\.))*" ++ typeName ++ r"\b") "entity.other.inherited-class"
      |>.parts [(1, "keyword.operator.dereference")]]),
  ("inherited arguments", context [
    pop r">|[^\w\s,?<\[\]]" "",
    use "inherited types",
    push "<" "" ["inherited part"]] |>.whole "entity.other.inherited-class"),
  ("inherited part", context [pop r">|[^\w\s,\[\]<]" ""] |>.whole "storage.type.generic"),
  ("class body", context [
    pop r"(?=\x7d)" "",
    push r"(?:^|(?<=;))\s*\b([A-Z0-9_]+)(?=\s*(?:,|;|\x7d|\(|$))" "" ["enumerator"]
      |>.parts [(1, "constant.enum.name")],
    push (r"(?:^|(?<=;))(?=\s*(?:" ++ modifiers ++ r"\s+)*[A-Z]\w*\()") "" ["constructor"],
    use "all"]),
  ("enumerator", context [
    pop r",|;|(?=\x7d)|^(?!\s*\w+\s*(?:,|$))" "",
    push r"\(" "" ["group"]]),
  ("constructor", context [
    use "method parts",
    pop r"\x7d" ""]),
  ("method", context [
    use "method parts",
    pop r"\x7d|(?=[^\x7b])" ""]),
  ("method parts", context [
    mark r"\s" "",
    use "annotations",
    push r"(?=(?:\w|<)[^(]*\s+(?:[\w$]|<)+\s*\()" "" ["return type"],
    push r"([\w$]+)\s*\(" "" ["parameters"] |>.parts [(1, "entity.name.function")],
    push r"(?=<)" "" ["type parameters"],
    push r"throws" "storage.modifier" ["thrown types"],
    push r"\x7b" "" ["method body"]]),
  ("return type", context [
    pop r"(?=[\w$]+\s*\()" "",
    use "modifiers",
    use "types"]),
  ("parameters", context [
    pop r"\)" "",
    push r"(?=[^)])" "" ["parameter list"]]),
  ("parameter list", context [
    pop r"(?=\))" "",
    push r"(?=[^,)])" "" ["parameter"]]),
  ("parameter", context [
    pop r"(?=,|\))" "",
    push r"=" "keyword.operator.assignment" ["default value"],
    use "parameter items"]),
  ("default value", context [
    pop r"(?=,|\))" "",
    use "code"]),
  ("parameter items", context [
    use "annotations",
    use "modifiers",
    use "types",
    mark r"\w+" "variable.parameter.method"]),
  ("type parameters", context [
    pop r"(?=\s)" "",
    push r"<" "" ["type parameter list"]]),
  ("type parameter list", context [
    pop r">" "",
    use "types",
    mark r"<" ""] |>.whole "storage.type.parameters"),
  ("thrown types", context [
    pop r"(?=\x7b|;)|^(?=\s*(?:[^\x7b\s]|$))" "",
    use "object types"]),
  ("method body", context [
    pop r"(?=\x7d)" "",
    use "code"]),
  ("variable", context [
    pop r";|$" "",
    mark r"\s" "",
    mark r"([A-Z_0-9]+)\s+(?=\=)" "" |>.parts [(1, "constant.variable")],
    mark r"(\w[^\s,]*)\s+(?=\=)" "",
    push r"=" "keyword.operator.assignment" ["assigned value"],
    mark r"(\w[^\s=]*)(?=\s*(?:$|;))" "",
    use "code"]),
  ("assigned value", context [
    pop r"$" "",
    use "code"])]

/-- The contexts of code. -/
def code : Grammar := [
  ("code", context [
    use "code without keys",
    mark r"(?<!\w)(\w+)\s*(:)" "" |>.parts [(1, "constant.other.key")]]),
  ("code without keys", context [
    use "comments",
    use "annotations",
    mark r"\b(?:sprintf|print(?:f|ln)?)\b" "support.function.print",
    mark (r"\b(?:shouldFail|fail(?:NotEquals)?|ass(?:ume|ert(?:S(?:cript|ame)|" ++
      r"N(?:ot(?:Same|Null)|ull)|Contains|T(?:hat|oString|rue)|Inspect|Equals|False|Length|" ++
      r"ArrayEquals)))\b") "support.function.testing",
    use "control",
    use "values",
    push r"\bnew\b" "keyword.control.new" ["new"],
    use "operators",
    use "types",
    use "modifiers",
    push r"\(" "" ["group"],
    push r"\x7b(?=.*?->)" "" ["closure"],
    push r"\x7b" "" ["block"]]),
  ("control", context [
    mark r"\b(?:try|catch|finally|throw)\b" "keyword.control.exception",
    mark r"\b(?<!\.)(?:return|break|continue|default|do|while|for|switch|if|else)\b"
      "keyword.control",
    push r"\bcase\b" "keyword.control" ["case"],
    push r"\b(assert)\s" "" ["assertion"] |>.parts [(1, "keyword.control.assert")],
    mark r"\bthrows\b" "keyword.other.throws"]),
  ("case", context [
    pop r":" "punctuation.definition.case-terminator",
    use "code without keys"]),
  ("assertion", context [
    pop r"$|;|\x7d" "",
    mark r":" "keyword.operator.assert",
    use "code without keys"]),
  ("values", context [
    mark r"\b(?:this|super)\b" "variable.language",
    use "strings",
    mark (r"(?:0[xX][0-9a-fA-F]*|[-+]?\b(?:[0-9]+\.?[0-9]*|\.[0-9]+)(?:[eE][-+]?[0-9]+)?)" ++
      r"(?:[LlFfUuDdg]|UL|ul)?\b") "constant.numeric",
    mark r"\b[A-Z][A-Z0-9_]+\b" "constant.other",
    mark r"\b(?:true|false|null)\b" "constant.language",
    use "types",
    push r"\[" "" ["brackets"],
    push r"(?<![\w$])[\w$]+\(" "" ["group"]]),
  ("brackets", context [
    pop r"\]" "",
    use "code"]),
  ("group", context [
    pop r"\)" "",
    use "code"]),
  ("block", context [
    pop r"\x7d" "",
    use "code"]),
  ("closure", context [
    pop r"\x7d" "",
    push r"(?<=\x7b)(?=[^\x7d]*?->)" "" ["closure head"],
    push r"(?=[^\x7d])" "" ["closure body"]]),
  ("closure head", context [
    pop r"->" "keyword.operator",
    push r"(?!->)" "" ["closure parameters"]]),
  ("closure parameters", context [
    pop r"(?=->)" "",
    push r"(?!,|->)" "" ["closure parameter"]]),
  ("closure parameter", context [
    pop r"(?=,|->)" "",
    push r"=" "keyword.operator.assignment" ["closure default"],
    use "parameter items"]),
  ("closure default", context [
    pop r"(?=,|->)" "",
    use "code"]),
  ("closure body", context [
    pop r"(?=\x7d)" "",
    use "code"]),
  ("new", context [
    pop r"(?<=[)\]])(?!\s*\x7b)|(?<=\x7d)|(?=;)|$" "",
    push r"(\w+)\s*(?=\[)" "" ["new array"] |>.parts [(1, "storage.type")],
    push r"(?=\w.*\(?)" "" ["new object"],
    push r"\x7b" "" ["inner class"]]),
  ("new array", context [
    pop r"\x7d|(?=\s*(?:,|;|\)))|$" "",
    push r"\[" "" ["all brackets"],
    push r"\x7b" "" ["array values"]]),
  ("all brackets", context [
    pop r"\]" "",
    use "all"]),
  ("array values", context [
    pop r"(?=\x7d)" "",
    use "all"]),
  ("new object", context [
    pop r"(?<=\))|$" "",
    use "object types",
    push r"\(" "" ["all group"]]),
  ("all group", context [
    pop r"\)" "",
    use "all"]),
  ("inner class", context [
    pop r"\x7d" "",
    use "class body"]),
  ("operators", context [
    mark r"\bas\b" "keyword.operator.as",
    mark r"\bin\b" "keyword.operator.in",
    mark r"\?:" "keyword.operator.elvis",
    mark r"\*:" "keyword.operator.spreadmap",
    mark r"\.\." "keyword.operator.range",
    mark r"->" "keyword.operator.arrow",
    mark r"<<" "keyword.operator.leftshift",
    mark r"(?<=\S)\.(?=\S)" "keyword.operator.navigation",
    mark r"(?<=\S)\?\.(?=\S)" "keyword.operator.safe-navigation",
    push r"\?" "keyword.operator.ternary" ["ternary"],
    mark r"==~" "keyword.operator.match",
    mark r"=~" "keyword.operator.find",
    mark r"\binstanceof\b" "keyword.operator.instanceof",
    mark r"===|==|!=|<=|>=|<=>|<>|<|>|<<" "keyword.operator.comparison",
    mark r"=" "keyword.operator.assignment",
    mark r"--|\+\+" "keyword.operator.increment-decrement",
    mark r"[-+*/%]" "keyword.operator.arithmetic",
    mark r"!|&&|\|\|" "keyword.operator.logical"]),
  ("ternary", context [
    pop r"(?=$|\)|\x7d|\])" "",
    mark r":" "keyword.operator.ternary",
    use "code without keys"])]

/-- The contexts of types and strings. -/
def atoms : Grammar := [
  ("types", context [
    mark r"\bdef\b" "storage.type.def",
    mark ("\\b" ++ primitives ++ "\\b") "storage.type.primitive",
    mark ("\\b" ++ primitives ++ r"(?:\[\])*\b") "storage.type.primitive.array",
    use "object types"]),
  ("object types", context [
    push (r"\b(?:[a-z]\w*\.)*(?:" ++ typeName ++ "|UR[LI])<") "" ["type arguments"],
    push (r"\b(?:[a-z]\w*\.)*" ++ typeName ++ r"(?=\[)") "" ["array type"],
    mark (r"\b(?:[a-zA-Z]\w*\.)*(?:" ++ typeName ++ r"|UR[LI])\b") "storage.type"]),
  ("type arguments", context [
    pop r">|[^\w\s,?<\[\]]" "",
    use "object types",
    push "<" "" ["type part"]] |>.whole "storage.type.generic"),
  ("type part", context [pop r">|[^\w\s,\[\]<]" ""] |>.whole "storage.type.generic"),
  ("array type", context [
    pop r"(?=[^\]\s])" "",
    push r"\[" "" ["all brackets"]] |>.whole "storage.type.object.array"),
  ("strings", context [
    push r"\x22\x22\x22" "punctuation.definition.string.begin" ["long template"],
    push r"'''" "punctuation.definition.string.begin" ["long text"],
    push r"\x22" "punctuation.definition.string.begin" ["template"],
    push r"'" "punctuation.definition.string.begin" ["text"],
    push r"/(?=[^/]+/(?:[^>]|$))" "punctuation.definition.string.regexp.begin" ["regexp"],
    push r"~\x22" "punctuation.definition.string.regexp.begin" ["compiled regexp"]]),
  ("escapes", context [mark r"\\." "constant.character.escape"]),
  ("long template", context [
    pop r"\x22\x22\x22" "punctuation.definition.string.end",
    use "template items"] |>.whole "string.quoted.double.multiline"),
  ("template", context [
    pop r"\x22" "punctuation.definition.string.end",
    use "template items"] |>.whole "string.quoted.double"),
  ("long text", context [
    pop r"'''" "punctuation.definition.string.end",
    use "escapes"] |>.whole "string.quoted.single.multiline"),
  ("text", context [
    pop r"'" "punctuation.definition.string.end",
    use "escapes"] |>.whole "string.quoted.single"),
  ("regexp", context [
    pop r"/" "punctuation.definition.string.regexp.end",
    use "escapes"] |>.whole "string.regexp"),
  ("compiled regexp", context [
    pop r"\x22" "punctuation.definition.string.regexp.end",
    use "escapes"] |>.whole "string.regexp.compiled"),
  ("template items", context [
    use "escapes",
    push r"\$\w" "" ["template variable"],
    push r"\$\x7b" "punctuation.section.embedded" ["template code"]]),
  ("template variable", context [
    mark r"\w" "",
    mark r"\." "keyword.other.dereference",
    pop r"(?=\W)" ""] |>.whole "variable.other.interpolated"),
  ("template code", context [
    pop r"\x7d" "punctuation.section.embedded",
    push r"\x7b" "" ["template braces"]]),
  ("template braces", context [
    pop r"\x7d" "punctuation.section.scope",
    push r"\x7b" "" ["template braces"]])]

end Groovy

/-- The grammar of Groovy. -/
def groovy : Grammar :=
  Groovy.outline ++ Groovy.declarations ++ Groovy.code ++ Groovy.atoms ++
    javaDoc.embedded "documentation"

end DocPreview.Highlight.Language

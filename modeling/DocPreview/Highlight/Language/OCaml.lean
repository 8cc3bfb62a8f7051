import DocPreview.Highlight.Grammar

/-!
# The grammars of OCaml, of its lexers and parsers and of its quotations

A bar or the words `with` and `function` begin a pattern only where an arrow follows in the line;
in a pattern, words are parameters. Behind `external` and in the types of fields, words are types.
-/

namespace DocPreview.Highlight.Language

open Grammar

namespace OCaml

/-- A name of a value. -/
def name : String := r"[a-z_][a-zA-Z0-9_']*"

/-- A name of a module or of a constructor. -/
def capital : String := r"[A-Z][a-zA-Z0-9'_]*"

/-- The contexts of definitions. -/
def definitions : Grammar := [
  ("main", context [
    push (r"\b(let|and)\s+(?!\(\*)(?:(rec\s+)(" ++ name ++ r")\b|(" ++ name ++
      r"|\([^)]+\))(?=\s)(?:(?=\s*=\s*function\b)|(?!\s*=)))") "" ["function"] |>.parts [
      (1, "keyword.other.function-definition"), (2, "keyword.other.function-definition"),
      (3, "entity.name.function"), (4, "entity.name.function")],
    mark (r"\b(let|and)\s+(" ++ name ++ r")(?=\s*=)") "" |>.parts [
      (1, "keyword.other.binding"), (2, "variable.other")],
    push r"\((?=fun\s)" "" ["anonymous function"],
    push r"^\s*(?=type\s)" "" ["type definitions"],
    push r"\b(with|function)\b(?=\s*$|.*->)" "" ["match pattern"]
      |>.parts [(1, "keyword.control.match-definition")],
    push r"(?<!\|)\|(?!\|)(?=.*->)" "keyword.control.match-definition" ["match pattern"],
    push (r"^[ \t]*(class\s+(?:type\s+)?(?:virtual\s+)?)((?:\[[^\]]*\]\s+)?" ++ name ++ ")") ""
      ["class"] |>.parts [(1, "keyword.other.class-definition"), (2, "entity.name.type.class")],
    push r"\x7b" "punctuation.definition.record" ["record"],
    push r"\b(object)\s*(?:(\()(_?[a-z]+)(\)))?\s*$" "" ["object"] |>.parts [
      (1, "keyword.other.object-definition"), (3, "entity.name.type.self-binding")],
    mark r"(?<=[\w)'])#[a-z_][a-zA-Z0-9'_]*" "",
    use "modules",
    use "strings",
    use "constants",
    use "comments",
    push r"\[\|" "punctuation.definition.array.begin" ["array"],
    push r"\((?=[^()~\x22]*(?<!:)(?::>|:(?![:=])))" "punctuation.section.type-constraint"
      ["type constraint"],
    mark r"#[a-zA-Z]+" "keyword.other.directive",
    use "storage",
    push r"\bbegin\b" "keyword.control.begin-end" ["begin"],
    push r"\(" "punctuation.section.parens" ["parentheses"],
    use "words",
    use "constructors",
    use "operators"]),
  ("function", context [
    pop r"=" "keyword.operator",
    pop r"(:)\s*([^=]+)(=)" ""
      |>.parts [(2, "storage.type"), (3, "keyword.operator")],
    use "parameters"]),
  ("anonymous function", context [
    pop r"\)" "",
    push r"(?<=\()(fun)\s" "" ["anonymous parameters"]
      |>.parts [(1, "keyword.other.function-definition")],
    use "main"]),
  ("anonymous parameters", context [
    pop r"->" "punctuation.separator.function-definition",
    use "parameters"]),
  ("type definitions", context [
    pop r"\b(?=let|end|val)|^\s*$" "",
    push r"\b(type|and)\s+([^=]*)(=)?" "" ["type definition"] |>.parts [
      (1, "keyword.other.type-definition"), (2, "storage.type"), (3, "keyword.operator")]]),
  ("type definition", context [
    pop r"(?=\b(?:type|and|let|end|val)\b)|(?=^\s*$)" "",
    use "types"]),
  ("types", context [
    mark r"\|" "punctuation.separator.variant-definition",
    use "comments",
    push r"\(" "" ["types in parentheses"],
    mark r"\bof\b" "keyword.other",
    use "storage",
    mark r"(?<=[\s(])['a-z_]\w*\b" "storage.type",
    mark ("\\b(" ++ capital ++ r"(?:\." ++ capital ++ r")*)(\.[a-zA-Z0-9'_]+)") ""
      |>.parts [(1, "support.other.module"), (2, "storage.type.module")],
    use "main"]),
  ("types in parentheses", context [
    pop r"\)" "",
    use "types"]),
  ("class", context [
    pop r"=" "keyword.operator",
    use "parameters"]),
  ("record", context [
    pop r"\x7d" "punctuation.definition.record",
    mark r"\bmutable\s" "keyword.other.storage.modifier",
    push r":(?![:=])" "punctuation.definition.record" ["record type"],
    use "main"]),
  ("record type", context [
    pop r";" "keyword.operator",
    pop r"(?=\x7d)" "",
    use "types"]),
  ("object", context [
    pop r"\bend\b" "keyword.control.object",
    push (r"\b(method)\s+(virtual\s+)?(private\s+)?(" ++ name ++ ")") "" ["method"] |>.parts [
      (1, "keyword.other.method-definition"), (2, "keyword.other.method-definition"),
      (3, "keyword.other.method-restriction"), (4, "entity.name.function.method")],
    use "main"]),
  ("method", context [
    pop r"[=:]" "keyword.operator",
    use "parameters"]),
  ("modules", context [
    mark (r"^[ \t]*(module)\s+([A-Z_][a-zA-Z0-9'_]*)(?:\s*(:)\s*(" ++ capital ++ ")?)?") ""
      |>.parts [(1, "keyword.other.module-definition"), (2, "entity.name.type.module"),
        (4, "entity.name.type.module-type")],
    mark (r"^[ \t]*(module\s+type\s+)(" ++ capital ++ ")") "" |>.parts [
      (1, "keyword.other.module-type-definition"), (2, "entity.name.type.module-type")],
    push r"\bsig\b" "keyword.other.module.signature" ["signature"],
    push r"\bstruct\b" "keyword.other.module.structure" ["structure"],
    push (r"\b(val|external)\s+(" ++ name ++ r")\s*(:)") "" ["value signature"]
      |>.parts [(1, "keyword.other"), (2, "entity.name.type.value-signature")],
    push ("\\b(open)\\s+(" ++ capital ++ ")") "" ["opened module"]
      |>.parts [(1, "keyword.other"), (2, "support.other.module")],
    mark ("\\b(exception)\\s+(" ++ capital ++ ")") ""
      |>.parts [(1, "keyword.other"), (2, "entity.name.type.exception")],
    use "module references"]),
  ("module references", context [
    mark ("\\b(" ++ capital ++ r")(\.)") "" |>.parts [(1, "support.other.module")]]),
  ("signature", context [
    pop r"\bend\b" "keyword.other.module.signature",
    use "main"]),
  ("structure", context [
    pop r"\bend\b" "keyword.other.module.structure",
    use "main"]),
  ("value signature", context [
    pop r"(?=\b(?:type|val|external|class|module|let|end)\b)|^\s*$" "",
    mark (r"(\?)([a-z]\w*)\s*(:)") "variable.parameter.optional"
      |>.parts [(2, "entity.name.tag.label.optional"), (3, "punctuation.separator")],
    use "types"]),
  ("opened module", context [
    pop r"\s|$" "",
    mark (r"\." ++ capital) "support.other.module"])]

/-- The contexts of patterns and parameters. -/
def patterns : Grammar := [
  ("match pattern", context [
    pop r"->" "punctuation.separator.match-definition",
    pop r"\bwhen\b" "keyword.control.match-condition",
    pop r"\s(?=\|)" "",
    mark r"\b_\b" "constant.language.universal-match",
    mark r"\|(?=\s*\S)" "punctuation.separator.match-pattern",
    use "module references",
    use "constants",
    use "parameters",
    use "main"]),
  ("parameters", context [
    mark r"\(\)" "variable.parameter.unit",
    use "constants",
    use "module references",
    push r"(~)([a-z][a-zA-Z0-9'_]*)(\s*:\s*)?" "" ["labeled parameter"]
      |>.parts [(2, "entity.name.tag.label")],
    push (r"(\?)(\()(" ++ name ++ r")\s*(=)") "" ["optional parameter"]
      |>.parts [(3, "entity.name.tag.label.optional")],
    mark r"(\?)([a-z]\w*)" "variable.parameter.optional"
      |>.parts [(2, "entity.name.tag.label.optional")],
    push r"\((?=[^()~\x22]*(?<!:)(?::>|:(?![:=])))" "punctuation.section.type-constraint"
      ["typed parameter"],
    use "comments",
    push r"\(" "" ["tuple parameter"],
    push r"\x7b" "punctuation.definition.record-pattern" ["record parameter"],
    use "storage",
    mark ("\\b" ++ name) "variable.parameter"]),
  ("labeled parameter", context [
    pop r"(?=->|\s)" "",
    use "parameters"] |>.whole "variable.parameter.labeled"),
  ("optional parameter", context [
    pop r"\)" "",
    use "main"] |>.whole "variable.parameter.optional"),
  ("typed parameter", context [
    pop r"\)" "punctuation.section.type-constraint",
    push r"(?<!:)(?::>|:(?![:=]))" "punctuation.separator.type-constraint" ["parameter type"],
    use "parameters"]),
  ("parameter type", context [pop r"(?=\))" ""] |>.content "storage.type"),
  ("tuple parameter", context [
    pop r"\)" "",
    use "match pattern parts"]),
  ("match pattern parts", context [
    mark r"\b_\b" "constant.language.universal-match",
    use "parameters",
    use "constructors"]),
  ("record parameter", context [
    pop r"\x7d" "punctuation.definition.record-pattern"] |>.whole "variable.parameter.record")]

/-- The contexts of expressions. -/
def expressions : Grammar := [
  ("array", context [
    pop r"\|\]" "punctuation.definition.array.end",
    use "main"]),
  ("type constraint", context [
    pop r"(?<!:)(:>|:(?![:=]))(.*?)(\))" "" |>.parts [(2, "storage.type")],
    use "main"]),
  ("begin", context [
    pop r"\bend\b" "keyword.control.begin-end",
    use "main"]),
  ("parentheses", context [
    pop r"\)" "punctuation.section.parens",
    use "main"]),
  ("storage", context [
    mark (r"\b(?:int|char|float|string|list|array|bool|unit|exn|option|int32|int64|nativeint|" ++
      r"format4|lazy_t)\b") "storage.type"]),
  ("words", context [
    mark r"\b(?:land|lor|lsl|lsr|lxor|mod|or|asr)\b" "keyword.operator",
    mark (r"\b(?:downto|if|else|for|do|done|then|when|while|to|match|try|with|function)\b")
      "keyword.control",
    mark (r"\b(?:and|as|assert|class|constraint|exception|functor|in|include|inherit|" ++
      r"initializer|lazy|let|module|mutable|new|object|open|private|rec|type|virtual)\b")
      "keyword.other"]),
  ("constructors", context [
    mark r"\x60[a-zA-Z]\w*" "entity.name.type.variant.polymorphic",
    mark ("\\b" ++ capital) "entity.name.type.constructor"]),
  ("operators", context [
    mark r"->|::|;|\b[a-z_][\w']*" "",
    mark r"<-|:=|[-+*/=<>@^!&%$|]+" "keyword.operator"]),
  ("constants", context [
    mark r"\[\s*\]|\(\s*\)" "constant.language.pseudo-variable",
    mark r"\b(?:true|false)\b" "constant.language.boolean",
    mark r"\b-?[0-9][0-9_]*(?:\.(?:[0-9][0-9_]*)?(?:[eE][+-]?[0-9][0-9_]*)?|[eE][+-]?[0-9][0-9_]*)"
      "constant.numeric.floating-point",
    mark (r"\b-?(?:0[xX][0-9a-fA-F][0-9a-fA-F_]*|0[oO][0-7][0-7_]*|0[bB][01][01_]*|" ++
      r"[0-9][0-9_]*)[nLl]?") "constant.numeric.integer",
    mark r"'(?:[^\\]|\\(?:x[a-fA-F0-9][a-fA-F0-9]|[0-2]\d\d|[bnrt'\x22\\]))'"
      "constant.character"]),
  ("strings", context [push r"\x22" "punctuation.definition.string.begin" ["text"]]),
  ("text", context [
    pop r"\x22" "punctuation.definition.string.end",
    mark r"\\$[ \t]*" "punctuation.separator.string.ignore-eol",
    mark r"\\(?:x[a-fA-F0-9][a-fA-F0-9]|[0-2]\d\d|[bnrt'\x22\\])"
      "constant.character.string.escape",
    mark r"\\[|()1-9$^.*+?\[\]]" "constant.character.regexp.escape"]
      |>.whole "string.quoted.double"),
  ("comments", context [
    mark r"\(\*(?:(\*)| )\*\)" "comment.block.empty",
    push r"\(\*" "punctuation.definition.comment.begin" ["block comment"]]),
  ("block comment", context [
    push r"\(\*" "punctuation.definition.comment.begin" ["block comment"],
    pop r"\*\)" "punctuation.definition.comment.end"] |>.whole "comment.block")]

end OCaml

open OCaml

/-- The grammar of OCaml. -/
def oCaml : Grammar := definitions ++ patterns ++ expressions

namespace OCaml

/-- The contexts of lexers. -/
def lexers : Grammar := [
  ("main", context [
    push r"^\s*\x7b" "punctuation.section.embedded.begin" ["code"],
    push (r"\b(let)\s+([a-z][a-zA-Z0-9'_]*)\s+=") "" ["defined pattern"]
      |>.parts [(1, "keyword.other.pattern-definition"), (2, "entity.name.type.pattern")],
    push (r"(rule|and)\s+([a-z]\w*)\s+(=)\s+(parse)(?=\s*$)") "" ["rule"] |>.parts [
      (1, "keyword.other"), (2, "entity.name.function.entrypoint"), (3, "keyword.operator"),
      (4, "keyword.other")],
    push r"(?<!\|)\|(?!\|)" "punctuation.separator.match-pattern" ["rule"],
    use "ocaml:strings",
    use "ocaml:comments",
    mark r"=" "keyword.operator.symbol"]),
  ("code", context [
    pop r"^\s*\x7d" "punctuation.section.embedded.end",
    use "ocaml:main"]),
  ("defined pattern", context [
    pop r"^(?=\s*let)|^(?=\s*rule)|\s*$" "",
    use "pattern parts"]),
  ("rule", context [
    pop r"^\s*(?=and\b|\||$)" "",
    use "pattern parts",
    push r"\x7b" "punctuation.definition.action.begin" ["action"]]),
  ("action", context [
    pop r"\x7d" "punctuation.definition.action.end",
    use "ocaml:main"]),
  ("pattern parts", context [
    mark r"\b_\b" "constant.language.universal-match",
    mark r"\beof\b" "constant.language.eof",
    mark r"\bas\b" "keyword.other.match-pattern",
    use "characters",
    use "ocaml:strings",
    use "ocaml:comments",
    push r"\[" "punctuation.definition.character-class" ["character class"],
    mark r"[*+?^|#]" "keyword.operator.pattern"]),
  ("characters", context [
    mark r"'(?:[^\\]|\\(?:x[a-fA-F0-9][a-fA-F0-9]|[0-9]\d\d|[bnrt'\x22\\]))'"
      "constant.character"]),
  ("character class", context [
    pop r"\](?!')" "punctuation.definition.character-class",
    use "characters",
    mark r"-" "punctuation.separator.character-class.range"])]

/-- The contexts of parsers. -/
def parsers : Grammar := [
  ("main", context [
    push r"%\x7b\s*$" "punctuation.section.header.begin" ["header"],
    push r"(?<=%\x7d)\s*$" "" ["declarations"],
    push r"%%\s*$" "punctuation.section.rules.begin" ["rules"],
    use "ocaml:main"]),
  ("header", context [
    pop r"^\s*(?=%\x7d)" "",
    use "ocaml:main"]),
  ("declarations", context [
    pop r"^(?=%%)" "",
    use "remarks",
    push r"%token\b" "keyword.other.token" ["token declaration"],
    push r"%(?:left|right|nonassoc)\b" "keyword.other.associativity" ["symbol declaration"],
    push r"%start\b" "keyword.other.start-symbol" ["symbol declaration"],
    push r"%type\b" "keyword.other.type" ["symbol declaration"]]),
  ("token declaration", context [
    pop r"^(?=\s*%)|^\s*$" "",
    use "symbol types",
    mark r"[A-Z]\w*" "entity.name.type.token",
    use "remarks"]),
  ("symbol declaration", context [
    pop r"^(?=\s*%)|^\s*$" "",
    use "symbol types",
    use "symbols",
    use "remarks"]),
  ("symbol types", context [push r"<" "" ["symbol type"]]),
  ("symbol type", context [
    pop r">" "",
    use "ocaml:main"]),
  ("symbols", context [
    mark r"\b[A-Z]\w*" "entity.name.type.token.reference",
    mark r"\b[a-z]\w*" "entity.name.function.non-terminal.reference"]),
  ("rules", context [
    set r"^\s*%%" "punctuation.section.rules.end" ["trailer"],
    use "remarks",
    push r"[a-z]\w*" "entity.name.function.non-terminal" ["productions"]]),
  ("productions", context [
    pop r";" "punctuation.separator.rule",
    mark r"(%prec)\s+(?:([a-z]\w*)|([A-Z]\w*))" "" |>.parts [
      (1, "keyword.other.precedence"), (2, "entity.name.function.non-terminal.reference"),
      (3, "entity.name.type.token.reference")],
    mark r"[|:]" "punctuation.separator.rule",
    push r"\x7b" "punctuation.definition.action.begin" ["action"],
    use "symbols",
    use "remarks"]),
  ("action", context [
    pop r"\x7d" "punctuation.definition.action.end",
    use "ocaml:main"]),
  ("trailer", context [use "ocaml:main"]),
  ("remarks", context [push r"/\*" "punctuation.definition.comment.begin" ["remark"]]),
  ("remark", context [pop r"\*/" "punctuation.definition.comment.end"] |>.whole "comment.block")]

end OCaml

/-- The grammar of lexers. -/
def oCamlLexer : Grammar := lexers ++ oCaml.embedded "ocaml"

/-- The grammar of parsers. -/
def oCamlParser : Grammar := parsers ++ oCaml.embedded "ocaml"

/-- The grammar of quotations and streams. -/
def camlQuotation : Grammar :=
  [("main", context [
    mark r"\bparser\b|<[<:]|>>|\$:?" "keyword.other",
    mark r"\[<|>\]" "punctuation.definition.stream"])]

end DocPreview.Highlight.Language

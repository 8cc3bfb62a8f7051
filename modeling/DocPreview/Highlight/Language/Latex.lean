import DocPreview.Highlight.Grammar

/-!
# The grammars of TeX, of LaTeX and of its bibliographies
-/

namespace DocPreview.Highlight.Language

open Grammar

namespace Latex

/-- The contexts of TeX. -/
def plain : Grammar := [
  ("main", context [
    use "comments",
    use "conditions",
    use "definitions",
    use "math parts",
    use "characters",
    use "commands",
    use "braces"]),
  ("comments", context [mark r"%.*$\n?" "comment.line.percentage"]),
  ("conditions", context [
    mark (r"\\(?:backmatter|else|fi|frontmatter|mainmatter|loop|repeat|unless|or|" ++
      r"if(?:case|cat|dim|eof|false|true|hbox|hmode|inner|mmode|num|odd|undefined|vbox|vmode|" ++
      r"void|x|defined|csname)?)\b") "keyword.control"]),
  ("definitions", context [
    mark r"(\\(?:[gex]?def|let))\s*(\\[a-zA-Z@]+|\\.)" ""
      |>.parts [(1, "storage.modifier.definition"), (2, "entity.name.definition")]]),
  ("characters", context [
    push r"\\\\(?=\s*\[)" "constant.character.newline" ["distance"],
    mark r"\\\\" "constant.character.newline",
    mark r"~" "constant.character.space",
    mark r"\\[^a-zA-Z@]" "constant.character.escape"]),
  ("distance", context [
    push r"\[" "punctuation.definition.group.bracket.begin" ["length"],
    popElse]),
  ("length", context [
    pop r"\]" "punctuation.definition.group.bracket.end",
    mark r"-?\d*\.?\d+" "constant.numeric",
    mark r"(?:pt|pc|in|bp|cm|mm|dd|cc|sp|ex|em|mu)\b" "keyword.other.unit",
    use "commands"]),
  ("commands", context [mark r"\\[A-Za-z@]+\*?" "support.function.general"]),
  ("braces", context [push r"\x7b" "punctuation.definition.group.brace.begin" ["group"]]),
  ("group", context [
    pop r"\x7d" "punctuation.definition.group.brace.end",
    use "main"]),
  ("math parts", context [
    push r"\$\$" "string.other.math.begin" ["display math"],
    push r"\$" "string.other.math.begin" ["math"],
    push r"\\\(" "string.other.math.begin" ["parenthesized math"],
    push r"\\\[" "string.other.math.begin" ["bracketed math"]]),
  ("display math", context [
    pop r"\$\$" "string.other.math.end",
    use "math items"]),
  ("math", context [
    pop r"\$" "string.other.math.end",
    use "math items"]),
  ("parenthesized math", context [
    pop r"\\\)" "string.other.math.end",
    use "math items"]),
  ("bracketed math", context [
    pop r"\\\]" "string.other.math.end",
    use "math items"]),
  ("math items", context [
    use "comments",
    push r"\\(?:text|mbox|hbox|textrm|textnormal|intertext)(?=\s*\x7b)" "support.function.math"
      ["text in math"],
    mark r"(\\(?:left|right|[bB]igg?[lrm]?|middle))(\\[\x7b\x7d|]|[\[\](){}|./<>])" ""
      |>.parts [(1, "support.function.math"), (2, "constant.character.math")],
    mark (r"\\(?:[aA]lpha|[bB]eta|[gG]amma|[dD]elta|(?:var)?[eE]psilon|[zZ]eta|[eE]ta|" ++
      r"(?:var)?[tT]heta|[iI]ota|[kK]appa|[lL]ambda|[mM]u|[nN]u|[xX]i|[oO]micron|(?:var)?[pP]i|" ++
      r"(?:var)?[rR]ho|(?:var)?[sS]igma|[tT]au|[uU]psilon|(?:var)?[pP]hi|[cC]hi|[pP]si|" ++
      r"[oO]mega)(?![a-zA-Z@])") "keyword.other.math.greek",
    push r"\x7b" "punctuation.definition.group.brace.begin" ["math group"],
    use "characters",
    mark r"&" "constant.character.math-tab",
    mark r"\\[A-Za-z@]+\*?" "support.function.math",
    mark r"[-+*/=<>^_|!:]" "keyword.operator.math",
    mark r"\d+(?:\.\d+)?|\.\d+" "constant.numeric.math",
    mark r"[a-zA-Z]+" "variable.other.math"]),
  ("math group", context [
    pop r"\x7d" "punctuation.definition.group.brace.end",
    use "math items"]),
  ("text in math", context [
    set r"\x7b" "punctuation.definition.group.brace.begin" ["group"],
    popElse])]

/-- The environments of mathematics. -/
def mathEnvironment : String :=
  r"(?:align|alignat|aligned|alignedat|displaymath|eqnarray|equation|flalign|gather|gathered|" ++
    r"math|multline|split|xalignat|xxalignat|array|cases|[bBpvV]?matrix|smallmatrix)\*?"

/-- A command that `begin` or `end` stands for, with the name of an environment. -/
def environmentTag (word name : String) : String :=
  r"(\\" ++ word ++ r")(\x7b)(" ++ name ++ r")(\x7d)"

/-- The scopes of the parts of the start of an environment. -/
def beginParts : List (Nat × String) :=
  [(1, "keyword.control.flow.begin"), (3, "variable.parameter.function")]

/-- The scopes of the parts of the end of an environment. -/
def endParts : List (Nat × String) :=
  [(1, "keyword.control.flow.end"), (3, "variable.parameter.function")]

/-- The contexts of what LaTeX adds. -/
def additions : Grammar := [
  ("main", context [
    use "comments",
    use "environments",
    use "preamble",
    use "structure",
    use "links",
    use "styles",
    use "conditions",
    use "definitions",
    use "math parts",
    use "characters",
    push r"(\\verb\*?)([^\sA-Za-z*])" "" ["inline verbatim"]
      |>.parts [(1, "support.function.verb")],
    push r"\\includegraphics\*?" "support.function.includegraphics" ["graphics arguments"],
    use "commands",
    use "braces"]),
  ("environments", context [
    push (environmentTag "begin" r"verbatim\*?|alltt|filecontents\*?") "" ["verbatim"]
      |>.parts beginParts,
    push (environmentTag "begin" "lstlisting|minted") "" ["listing", "listing options"]
      |>.parts beginParts,
    push (environmentTag "begin" r"tabular[xy]?\*?|longtable|array") "" ["table", "table head"]
      |>.parts beginParts,
    push (environmentTag "begin" mathEnvironment) "" ["math environment"] |>.parts beginParts,
    mark (environmentTag "begin" r"[^\x7d]*") "" |>.parts beginParts,
    mark (environmentTag "end" r"[^\x7d]*") "" |>.parts endParts]),
  ("verbatim", context [
    pop (environmentTag "end" r"verbatim\*?|alltt|filecontents\*?") "" |>.parts endParts]
      |>.content "markup.raw.verbatim"),
  ("listing", context [
    pop (environmentTag "end" "lstlisting|minted") "" |>.parts endParts]
      |>.content "markup.raw.verbatim"),
  ("listing options", context [
    set r"\[" "punctuation.definition.group.bracket.begin" ["options"],
    popNow]),
  ("options", context [
    pop r"\]" "punctuation.definition.group.bracket.end",
    mark r"([A-Za-z@]+)\s*(=)" "" |>.parts [(1, "variable.parameter")],
    use "commands",
    use "braces"]),
  ("table", context [
    pop (environmentTag "end" r"tabular[xy]?\*?|longtable|array") "" |>.parts endParts,
    mark r"&" "constant.character.tab",
    use "main"]),
  ("table head", context [
    push r"\[" "punctuation.definition.group.bracket.begin" ["plain options"],
    set r"\x7b" "punctuation.definition.group.brace.begin" ["columns"],
    popElse]),
  ("plain options", context [
    pop r"\]" "punctuation.definition.group.bracket.end",
    use "main"]),
  ("columns", context [
    pop r"\x7d" "punctuation.definition.group.brace.end",
    mark r"[lcrpmbX]" "keyword.other.column",
    mark r"\|" "keyword.operator.column",
    use "braces",
    use "commands"]),
  ("math environment", context [
    pop (environmentTag "end" mathEnvironment) "" |>.parts endParts,
    use "math items"]),
  ("inline verbatim", context [
    pop r"\2|$" ""] |>.content "markup.raw.verb"),
  ("preamble", context [
    push r"\\(?:documentclass|documentstyle)\b" "keyword.control.preamble" ["class arguments"],
    push r"\\(?:usepackage|RequirePackage)\b" "keyword.control.preamble" ["class arguments"],
    mark r"\\(?:include|input|includeonly|bibliography|subfile)\b" "keyword.control.include",
    push (r"\\(?:(?:new|renew|provide)(?:command|environment)|DeclareMathOperator|" ++
      r"newtheorem)\b\*?") "storage.modifier.newcommand" ["new command"]]),
  ("new command", context [
    set r"\x7b" "punctuation.definition.group.brace.begin" ["new command name"],
    pop r"\\[A-Za-z@]+" "entity.name.newcommand",
    popElse]),
  ("new command name", context [
    pop r"\x7d" "punctuation.definition.group.brace.end",
    mark r"[^\x7b\x7d]+" "entity.name.newcommand"]),
  ("class arguments", context [
    push r"\[" "punctuation.definition.group.bracket.begin" ["plain options"],
    set r"\x7b" "punctuation.definition.group.brace.begin" ["class name"],
    popElse]),
  ("class name", context [
    pop r"\x7d" "punctuation.definition.group.brace.end"] |>.content "support.class"),
  ("structure", context [
    push (r"(\\(?:(?:sub){0,2}section|(?:sub)?paragraph|chapter|part|addpart|addchap|addsec|" ++
      r"minisec|frametitle)\*?)(?:(\[)[^\[]*?(\]))?(\x7b)") ""
      ["section"] |>.parts [(1, "support.function.section")],
    mark r"\\item\b" "support.function.item"]),
  ("section", context [
    pop r"\x7d" "",
    use "main"] |>.content "entity.name.section"),
  ("links", context [
    mark r"(\\label)(\x7b)([^\x7d]*)(\x7d)" ""
      |>.parts [(1, "storage.type.function.label"), (3, "entity.name.label")],
    mark r"(\\(?:url|href))(\x7b)([^\x7d]*)(\x7d)" ""
      |>.parts [(1, "support.function.url"), (3, "markup.underline.link")],
    push r"\\\w*[cC]ite\w*\*?" "keyword.control.cite" ["citation"],
    mark r"(\\\w*ref\w*\*?)(\x7b)([^\x7d]*)(\x7d)" ""
      |>.parts [(1, "storage.modifier.reference"), (3, "constant.other.reference")]]),
  ("citation", context [
    push r"\[" "punctuation.definition.group.bracket.begin" ["plain options"],
    set r"\x7b" "punctuation.definition.group.brace.begin" ["citation keys"],
    popElse]),
  ("citation keys", context [
    pop r"\x7d" "punctuation.definition.group.brace.end",
    mark r"[^\s,\x7d]+" "constant.other.reference.citation"]),
  ("styles", context [
    push r"(\\textbf)(\x7b)" "" ["bold"] |>.parts [(1, "support.function.textbf")],
    push r"(\\(?:textit|emph))(\x7b)" "" ["italic"] |>.parts [(1, "support.function.textit")],
    push r"(\\texttt)(\x7b)" "" ["typewriter"] |>.parts [(1, "support.function.texttt")]]),
  ("bold", context [
    pop r"\x7d" "",
    use "main"] |>.content "markup.bold.textbf"),
  ("italic", context [
    pop r"\x7d" "",
    use "main"] |>.content "markup.italic.textit"),
  ("typewriter", context [
    pop r"\x7d" "",
    use "main"] |>.content "markup.raw.texttt"),
  ("graphics arguments", context [
    push r"\[" "punctuation.definition.group.bracket.begin" ["options"],
    popElse])]

/-- The contexts of bibliographies. -/
def bibliography : Grammar := [
  ("main", context [
    push r"@Comment" "punctuation.definition.comment" ["comment"],
    mark r"%.*$\n?" "comment.line.percentage",
    push r"((@)(?i:string))\s*(\x7b)\s*([a-zA-Z]*)" "" ["constant"] |>.parts [
      (1, "keyword.other.string-constant"), (4, "entity.name.constant")],
    push r"((@)[a-zA-Z]+)\s*(\x7b)\s*([^\s,]*)" "" ["entry"] |>.parts [
      (1, "keyword.other.entry-type"), (4, "entity.name.type.entry-key")],
    push r"((@)[a-zA-Z]+)\s*(\()\s*([^\s,]*)" "" ["parenthesized entry"] |>.parts [
      (1, "keyword.other.entry-type"), (4, "entity.name.type.entry-key")],
    push r"[^@\n]" "" ["remark"]]),
  ("remark", context [pop r"$\n?" ""] |>.whole "comment.block"),
  ("comment", context [pop r"$\n?" ""] |>.whole "comment.line.at-sign"),
  ("constant", context [pop r"\x7d" ""]),
  ("entry", context [
    pop r"\x7d" "punctuation.section.entry.end",
    use "fields"]),
  ("parenthesized entry", context [
    pop r"\)" "punctuation.section.entry.end",
    use "fields"]),
  ("fields", context [
    push r"([a-zA-Z0-9!$&*+./:;<>?\[\]^_\x60|-]+)\s*(=)" "" ["value"]
      |>.parts [(1, "string.unquoted.key"), (2, "punctuation.separator.key-value")]]),
  ("value", context [
    pop r"(?=[,\x7d)])" "",
    use "strings",
    mark r"\d+" "constant.numeric"]),
  ("strings", context [
    push r"\x22" "punctuation.definition.string.begin" ["quoted"],
    push r"\x7b" "punctuation.definition.string.begin" ["braced"]]),
  ("quoted", context [
    pop r"\x22" "punctuation.definition.string.end",
    push r"\x7b" "" ["nested braces"]] |>.whole "string.quoted.double"),
  ("braced", context [
    pop r"\x7d" "punctuation.definition.string.end",
    push r"\x7b" "" ["nested braces"]] |>.whole "string.quoted.other"),
  ("nested braces", context [
    pop r"\x7d" "",
    push r"\x7b" "" ["nested braces"]])]

end Latex

/-- The grammar of TeX. -/
def tex : Grammar := Latex.plain

/-- The grammar of LaTeX. -/
def latex : Grammar := Latex.additions ++ Latex.plain.filter fun (name, _) => name ≠ "main"

/-- The grammar of bibliographies. -/
def bibTex : Grammar := Latex.bibliography

end DocPreview.Highlight.Language

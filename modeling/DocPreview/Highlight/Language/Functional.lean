import DocPreview.Highlight.Language.Html
import DocPreview.Highlight.Language.Latex

/-!
# The grammars of Erlang and Haskell

Each of them also stands in a language of documents.
-/

namespace DocPreview.Highlight.Language

open Grammar

/-! ### Erlang, and HTML with Erlang in it

A function starts at the start of a line and ends with a dot. The arrow behind the head of each of
its clauses is an operator; other arrows in it only separate.
-/

section

namespace Erlang

/-- A name that starts with a small letter. -/
def atom : String := r"(?:[a-z][\w@]*|'[^'\n]*')"

/-- The contexts of directives. -/
def directives : Grammar := [
  ("directives", context [
    push r"^\s*(-)\s*(module)\s*(\()" "" ["module"]
      |>.parts [(2, "keyword.control.directive.module")],
    push r"^\s*(-)\s*(export|export_type|import)\s*(\()" "" ["exports"]
      |>.parts [(2, "keyword.control.directive.export")],
    push r"^\s*(-)\s*(include|include_lib)\s*(\()" "" ["directive"]
      |>.parts [(2, "keyword.control.directive.include")],
    push r"^\s*(-)\s*(define)\s*(\()\s*(\w+)" "" ["directive"] |>.parts [
      (2, "keyword.control.directive.define"), (4, "entity.name.function.macro.definition")],
    push r"^\s*(-)\s*(record)\s*(\()\s*([a-z][\w@]*|'[^']*')\s*,\s*(?=\x7b)" ""
      ["directive", "record"] |>.parts [
      (2, "keyword.control.directive.record"), (4, "entity.name.type.class.record.definition")],
    push r"^\s*(-)\s*(undef|ifdef|ifndef|else|endif)\b" "" ["directive"]
      |>.parts [(2, "keyword.control.directive")],
    push r"^\s*(-)\s*([a-z][\w@]*)\b" "" ["directive"]
      |>.parts [(2, "keyword.control.directive")]]),
  ("module", context [
    pop r"\)" "punctuation.definition.parameters.end",
    mark atom "entity.name.type.class.module.definition",
    pop r"(?=\.\s|\.$)" ""]),
  ("exports", context [
    pop r"\)\s*(?=\.)" "punctuation.definition.parameters.end",
    use "comments",
    mark (r"(" ++ atom ++ r")\s*(/)\s*(\d+)") "" |>.parts [(1, "entity.name.function"),
      (2, "punctuation.separator.function-arity"), (3, "constant.numeric")],
    mark (atom ++ r"(?=\s*,\s*\[)") "entity.name.type.class.module",
    pop r"(?=\.\s|\.$)" ""]),
  ("directive", context [
    pop r"\.(?=\s|$)" "punctuation.definition.directive.end",
    use "expressions"]),
  ("record", context [
    set r"\x7b" "punctuation.definition.class.record.begin" ["record fields"],
    popElse]),
  ("record fields", context [
    pop r"\x7d" "punctuation.definition.class.record.end",
    use "comments",
    push ("(?:(" ++ atom ++ r")|(_))\s*(=(?!=)|::)") "" ["field value"] |>.parts [
      (1, "variable.other.field"), (2, "variable.language.omitted.field"),
      (3, "keyword.operator.assignment")],
    mark (r"\b" ++ atom) "variable.other.field",
    use "expressions"]),
  ("field value", context [
    pop r",|(?=\x7d)" "",
    use "expressions"])]

/-- The contexts of functions. -/
def functions : Grammar := [
  ("functions", context [
    push ("^\\s*(" ++ atom ++ r")(?=\s*\()") "" ["function body", "function head"]
      |>.parts [(1, "entity.name.function.definition")]]),
  ("function head", context [
    pop r"->" "keyword.operator.clause",
    pop r"(?=\.(?:\s|$))" "",
    use "expressions"]),
  ("function body", context [
    pop r"\.(?=\s|$)" "punctuation.terminator.function",
    push ("^\\s*(" ++ atom ++ r")(?=\s*\()") "" ["function head"]
      |>.parts [(1, "entity.name.function")],
    mark r"->" "punctuation.separator.clause-head-body",
    use "expressions"])]

/-- The contexts of expressions. -/
def expressions : Grammar := [
  ("comments", context [mark r"%.*$\n?" "comment.line.percentage"]),
  ("expressions", context [
    use "comments",
    mark (r"\b(fun)\s+(?:(" ++ atom ++ r")\s*:\s*)?(" ++ atom ++ r")\s*/\s*(\d+)") "" |>.parts [
      (1, "keyword.control.fun"), (2, "entity.name.type.class.module"),
      (3, "entity.name.function"), (4, "constant.numeric")],
    mark r"\b(?:after|begin|case|catch|cond|end|fun|if|let|of|query|try|receive|when)\b"
      "keyword.control",
    mark r"\b(?:and|andalso|band|bnot|bor|bsl|bsr|bxor|div|not|or|orelse|rem|xor)\b"
      "keyword.operator",
    push r"\x22" "punctuation.definition.string.begin" ["text"],
    mark r"\$(?:\\(?:[bdefnrstv\\'\x22]|\^[@-_]|[0-7]{1,3})|[^\\\s])" "constant.character",
    mark r"\b\d+#[0-9a-zA-Z]+|\b\d+\.\d+(?:[eE][-+]?\d+)?|\b\d+\b" "constant.numeric",
    mark r"(\?\??)(\w+)" ""
      |>.parts [(1, "keyword.operator.macro"), (2, "entity.name.function.macro")],
    push ("(#)\\s*(" ++ atom ++ r")\s*(?=\x7b)") "" ["record"]
      |>.parts [(1, "keyword.operator.record"), (2, "entity.name.type.class.record")],
    mark ("(#)\\s*(" ++ atom ++ r")\s*\.\s*(" ++ atom ++ ")") "" |>.parts [
      (1, "keyword.operator.record"), (2, "entity.name.type.class.record"),
      (3, "variable.other.field")],
    push r"<<" "punctuation.definition.binary.begin" ["binary"],
    mark ("(" ++ atom ++ ")(:)(" ++ atom ++ r")(?=\s*\()") "" |>.parts [
      (1, "entity.name.type.class.module"), (2, "punctuation.separator.module-function"),
      (3, "variable.function")],
    mark ("(" ++ atom ++ r")(?=\s*\()") "" |>.parts [(1, "variable.function")],
    mark r"\b_[\w@]+|\b[A-Z][\w@]*" "variable.other",
    mark r"\b_\b" "variable.language.omitted",
    mark (r"\b" ++ atom) "constant.other.symbol.unquoted",
    mark r"'[^'\n]*'" "constant.other.symbol.quoted",
    mark r"\|\||::" "",
    mark r"<-|\+\+|--|=:=|=/=|==|/=|=<|<=|>=|[-+*/=<>!]" "keyword.operator"]),
  ("binary", context [
    pop r">>" "punctuation.definition.binary.end",
    mark r"(/)\s*(?=[a-z])" "punctuation.separator.value-type",
    mark r"\b(?:integer|float|binary|bytes|bitstring|bits|utf8|utf16|utf32)\b" "storage.type",
    mark r"\b(?:signed|unsigned|big|little|native|unit)\b" "storage.modifier",
    use "expressions"]),
  ("text", context [
    pop r"\x22" "punctuation.definition.string.end",
    mark r"\\(?:[bdefnrstv\\'\x22]|\^[@-_]|[0-7]{1,3})" "constant.character.escape",
    mark r"~(?:-?\d+|\*)?(?:\.(?:-?\d+|\*)?)?(?:\..)?t?[cfegswpWPBX#bx+ni~]"
      "constant.other.placeholder"] |>.whole "string.quoted.double")]

end Erlang

open Erlang

/-- The grammar of Erlang. -/
def erlang : Grammar :=
  [("main", context [use "directives", use "functions", use "expressions"])] ++
    directives ++ functions ++ expressions

/-- The grammar of HTML in which code in Erlang stands between tags. -/
def htmlWithErlang : Grammar :=
  [("main", context [
    push r"<erl>" "punctuation.section.embedded.begin" ["code"],
    use "html:main"]),
   ("code", context [
    pop r"</erl>" "punctuation.section.embedded.end",
    use "erlang:main"])] ++ html.embedded "html" ++ erlang.embedded "erlang"

end

/-! ### Haskell, and LaTeX with Haskell in it -/

section

namespace Haskell

/-- The contexts of declarations and expressions. -/
def statements : Grammar := [
  ("main", context [
    mark r"(\x60)[a-zA-Z_']*?(\x60)" "keyword.operator.function.infix",
    mark r"\(\)" "constant.language.unit",
    mark r"\[\]" "constant.language.empty-list",
    push r"\bmodule\b" "keyword.other" ["module"],
    push r"\bclass\b" "keyword.other" ["class"],
    push r"\binstance\b" "keyword.other" ["instance"],
    push r"\bimport\b" "keyword.other" ["import"],
    push r"(deriving)\s*\(" "" ["deriving"] |>.parts [(1, "keyword.other")],
    mark r"\b(?:deriving|where|data|type|case|of|let|in|newtype|default|forall)\b" "keyword.other",
    mark r"\binfix[lr]?\b" "keyword.operator",
    mark r"\b(?:do|if|then|else)\b" "keyword.control",
    mark r"\b\d+\.\d+(?:[eE][+-]?\d+)?\b" "constant.numeric.float",
    mark r"\b(?:0[xX]\h+|0[oO][0-7]+|\d+)\b" "constant.numeric",
    mark r"^\s*#\s*\w+" "meta.preprocessor.c",
    use "comments",
    push r"\x22" "punctuation.definition.string.begin" ["text"],
    mark (r"(?:(?<=\W)|^)'(?:[ -\[\]-~]|(\\(?:NUL|SOH|STX|ETX|EOT|ENQ|ACK|BEL|BS|HT|LF|VT|FF|CR|" ++
      r"SO|SI|DLE|DC[1-4]|NAK|SYN|ETB|CAN|EM|SUB|ESC|FS|GS|RS|US|SP|DEL|[abfnrtv\\\x22'&]))|" ++
      r"(\\[0-9]+)|(\\o[0-7]+)|(\\x\h+)|(\\\^[A-Z@\[\]\\^_]))'") "string.quoted.single" |>.parts [
        (1, "constant.character.escape"), (2, "constant.character.escape.octal"),
        (3, "constant.character.escape.octal"), (4, "constant.character.escape.hexadecimal"),
        (5, "constant.character.escape.control")],
    push (r"^\s*((?:[a-z_][a-zA-Z0-9_']*|" ++
      r"\([-|!%$+.,=</>]+\))(?:\s*,\s*[a-z_][a-zA-Z0-9_']*)*)\s*(::)") ""
      ["declared type"]
      |>.parts [(1, "entity.name.function"), (2, "keyword.other.double-colon")],
    mark r"\b(?:Just|Nothing|Left|Right|True|False|LT|EQ|GT)\b" "support.constant",
    mark r"\b[A-Z][\w']*" "constant.other",
    mark r"\b[a-z_][\w']*" "",
    mark r"[-|!%$?~+:.=</>\\*&^@#]+" "keyword.operator",
    mark r"," "punctuation.separator.comma"]),
  ("module", context [
    pop r"\bwhere\b" "keyword.other",
    use "comments",
    use "module name",
    push r"\(" "" ["exports"],
    mark r"[a-z]+" "invalid"]),
  ("module name", context [mark r"[A-Z][A-Za-z._']*" "support.other.module"]),
  ("exports", context [
    pop r"\)" "",
    use "comments",
    mark r"\b[a-z][a-zA-Z_']*" "entity.name.function",
    mark r"\b[A-Z][A-Za-z_']*" "storage.type",
    mark r"," "punctuation.separator.comma",
    mark r"\([^\w)]+\)" "entity.name.function.infix",
    mark r"\(.*?\)" ""]),
  ("class", context [
    pop r"\b(where)\b" "" |>.parts [(1, "keyword.other")],
    use "comments",
    mark (r"\b(?:Monad|Functor|Eq|Ord|Read|Show|Num|(?:Frac|Ra)tional|Enum|Bounded|" ++
      r"Real(?:Frac|Float)?|Integral|Floating)\b") "support.class.prelude",
    mark r"[A-Z][A-Za-z_']*" "entity.other.inherited-class",
    mark r"\b[a-z][a-zA-Z0-9_']*\b" "variable.other.generic-type"]),
  ("instance", context [
    pop r"\b(where)\b|$" "" |>.parts [(1, "keyword.other")],
    use "type signature"]),
  ("import", context [
    pop r"$|;" "",
    mark r"\b(?:qualified|as|hiding)\b" "keyword.other",
    use "comments",
    use "module name",
    push r"\(" "" ["exports"]]),
  ("deriving", context [
    pop r"\)" "",
    mark r"\b[A-Z][a-zA-Z_']*" "entity.other.inherited-class"]),
  ("declared type", context [
    set r"$\n?" "" ["defined name"],
    use "type signature"]),
  ("defined name", context [
    pop r"[a-z_][^=\n]*(?==)" "",
    pop r"(?=[\s\S])" ""])]

/-- The contexts of types, comments and texts. -/
def parts : Grammar := [
  ("type signature", context [
    use "comments",
    mark r"->|=>" "keyword.other.arrow",
    mark r"\b[a-z][a-zA-Z0-9_']*\b" "variable.other.generic-type",
    mark r"\b[A-Z][a-zA-Z0-9_']*\b" "storage.type",
    mark r"\(\)" "support.constant.unit"]),
  ("comments", context [
    push r"\x7b-#" "" ["pragma"],
    push r"\x7b-(?!#)" "punctuation.definition.comment" ["block comment"],
    mark r"--(?![!#$%&*+./<=>?@\\^|~:]).*$\n?" "comment.line.double-dash"]),
  ("pragma", context [
    pop r"#-\x7d" "",
    mark r"\b(?:LANGUAGE|UNPACK|INLINE|OPTIONS_GHC)\b" "keyword.other.preprocessor"]
      |>.whole "meta.preprocessor"),
  ("block comment", context [
    push r"\x7b-" "punctuation.definition.comment" ["block comment"],
    pop r"-\x7d" "punctuation.definition.comment"] |>.whole "comment.block"),
  ("text", context [
    pop r"\x22" "punctuation.definition.string.end",
    mark (r"\\(?:NUL|SOH|STX|ETX|EOT|ENQ|ACK|BEL|BS|HT|LF|VT|FF|CR|SO|SI|DLE|DC[1-4]|NAK|SYN|" ++
      r"ETB|CAN|EM|SUB|ESC|FS|GS|RS|US|SP|DEL|[abfnrtv\\\x22'&])") "constant.character.escape",
    mark r"\\[0-9]+|\\o[0-7]+|\\x\h+" "constant.character.escape",
    mark r"\^[A-Z@\[\]\\^_]" "constant.character.escape.control",
    mark r"\\\s" ""] |>.whole "string.quoted.double")]

end Haskell

open Haskell

/-- The grammar of Haskell. -/
def haskell : Grammar := statements ++ parts

/-- The grammar of LaTeX with Haskell in it. -/
def literateHaskell : Grammar :=
  [("main", context [
    push r"^(\\begin)(\x7b)(code)(\x7d)(?:\s*\n)?" "" ["code"]
      |>.parts [(1, "support.function.be"), (3, "variable.parameter.function")],
    use "latex:main"]),
   ("code", context [
    pop r"^(\\end)(\x7b)(code)(\x7d)" ""
      |>.parts [(1, "support.function.be"), (3, "variable.parameter.function")],
    use "haskell:main"])] ++ latex.embedded "latex" ++ haskell.embedded "haskell"

end

end DocPreview.Highlight.Language

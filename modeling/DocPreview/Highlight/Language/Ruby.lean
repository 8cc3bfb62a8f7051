import DocPreview.Highlight.Language.Data
import DocPreview.Highlight.Language.Html

/-!
# The grammar of Ruby

A slash starts a regular expression only where a value can stand, which is seen by what comes
before it.
-/

namespace DocPreview.Highlight.Language

open Grammar

namespace Ruby

/-- A name. -/
def name : String := r"[a-zA-Z_]\w*"

/-- What can stand before a regular expression. -/
def beforeRegexp : String :=
  r"(?:^|(?<=[=>~(?:\[,|&;])|(?<=[\s;]if\s)|(?<=[\s;]elsif\s)|(?<=[\s;]while\s)|" ++
    r"(?<=[\s;]unless\s)|(?<=[\s;]when\s)|(?<=[\s;]and\s)|(?<=[\s;]or\s)|(?<=[\s;]not\s)|" ++
    r"(?<=[\s.]index\s)|(?<=[\s.]scan\s)|(?<=[\s.]sub\s)|(?<=[\s.]sub!\s)|(?<=[\s.]gsub\s)|" ++
    r"(?<=[\s.]gsub!\s)|(?<=[\s.]match\s))"

/-- The contexts of declarations and statements. -/
def statements : Grammar := [
  ("statements", context [
    mark (r"^\s*(class)\s+(?:([.a-zA-Z0-9_:]+?)(?:\s*(<)\s*([.a-zA-Z0-9_:]+))?|(<<)\s*" ++
      r"([.a-zA-Z0-9_:]+))(?=[\s;#]|$)") "meta.class" |>.parts [(1, "keyword.control.class"),
        (2, "entity.name.class"), (3, "punctuation.separator.inheritance"),
        (4, "entity.other.inherited-class"), (5, "punctuation.definition.variable"),
        (6, "entity.name.class")],
    mark r"^\s*(module)\s+([A-Z]\w*(?:::[A-Z]\w*)*)" "meta.module"
      |>.parts [(1, "keyword.control.module"), (2, "entity.name.module")],
    push (r"\b(def)\s+((?:[a-zA-Z_]\w*|self)\.)?([a-zA-Z_]\w*[?!=]?(?![>~=])|===?|>[>=]?|<=>|" ++
      r"<[<=]?|[%\x60/|^&]|\*\*?|=?~|[-+]@?|\[\]=?)") "" ["method parameters"]
      |>.parts [(1, "keyword.control.def"), (3, "entity.name.function")],
    mark (r"(?<!\.)\b(?:BEGIN|begin|case|class|do|else|elsif|END|end|ensure|for|if|in|module|" ++
      r"rescue|then|unless|until|when|while|def)\b(?![?!:])") "keyword.control",
    mark r"(?<!\.)\b(?:and|not|or)\b" "keyword.operator.logical",
    mark (r"(?<!\.)\b(?:alias|alias_method|break|next|redo|retry|return|super|undef|yield)\b" ++
      r"(?![?!:])|\bdefined\?|\bblock_given\?") "keyword.control.pseudo-method",
    mark r"\b(?:nil|true|false)\b(?![?!:])" "constant.language",
    mark r"\b(?:__(?:FILE|LINE)__|self)\b(?![?!:])" "variable.language",
    mark r"\b__method__\b(?![?!:])" "support.function",
    mark (r"\b(?:initialize|new|loop|include|extend|prepend|raise|attr_reader|attr_writer|" ++
      r"attr_accessor|attr|catch|throw|private_class_method|module_function|public|protected|" ++
      r"private|require|require_relative|gem|refine|using)\b(?![?!:])")
      "keyword.other.special-method",
    mark (r"(?<!\.)\b(?:Array|Complex|Float|Hash|Integer|Rational|String|abort|at_exit|autoload|" ++
      r"binding|caller|eval|exec|exit|fork|format|gets|global_variables|lambda|load|" ++
      r"local_variables|open|p|pp|print|printf|proc|putc|puts|rand|readline|readlines|select|" ++
      r"set_trace_func|sleep|spawn|sprintf|srand|syscall|system|test|trap|warn)\b(?![?!:=])" ++
      r"(?=[\s(]|$)(?!\s*=[^=~])") "support.function.builtin",
    use "literals",
    use "variables",
    mark r"\b[A-Z]\w*(?=(?:\.|::)[A-Za-z]|\[)" "support.class",
    mark r"\b[A-Z]\w*\b" "variable.other.constant",
    use "operators",
    push r"\(" "punctuation.section.group.begin" ["group"],
    push r"\[" "punctuation.section.brackets.begin" ["brackets"],
    push r"\x7b" "punctuation.section.block.begin" ["block"],
    mark (name ++ "(?:[?!]|=(?![=~>]))?") ""]),
  ("group", context [
    pop r"\)" "punctuation.section.group.end",
    use "statements"]),
  ("brackets", context [
    pop r"\]" "punctuation.section.brackets.end",
    use "statements"]),
  ("block", context [
    pop r"\x7d" "punctuation.section.block.end",
    use "statements"]),
  ("method parameters", context [
    set r"\(" "punctuation.definition.group.begin" ["parameter list"],
    set r"[ \t]+(?=[\w&*\[])" "" ["bare parameters"],
    popNow]),
  ("parameter list", context [
    pop r"\)" "punctuation.definition.group.end",
    use "parameter items"]),
  ("bare parameters", context [
    pop r"$|(?=;)" "",
    use "parameter items"]),
  ("parameter items", context [
    mark r"\*\*?|&" "keyword.operator",
    mark (name ++ r"(?=:(?!:))") "constant.other.symbol.parameter",
    push r"=" "keyword.operator.assignment" ["default value"],
    push r":" "punctuation.separator" ["default value"],
    mark name "variable.parameter",
    mark r"," "punctuation.separator"]),
  ("default value", context [
    pop r"(?=[,)]|$)" "",
    use "statements"])]

/-- The contexts of variables and operators. -/
def operators : Grammar := [
  ("variables", context [
    mark r"@@?[a-zA-Z_]\w*" "variable.other.readwrite.instance",
    mark r"\$(?:[!@&\x60'+0-9~=/\\,;.<>_*$?:\x22]|-[0adFiIlpv])"
      "variable.other.readwrite.global.pre-defined",
    mark r"\$[a-zA-Z_]\w*" "variable.other.readwrite.global",
    mark r"\b(?:ENV)\b" "variable.other.constant",
    push r"(?<=[\x7bo]|[\x7bo] )\s*\|" "punctuation.definition.parameters.begin"
      ["block parameters"]]),
  ("block parameters", context [
    pop r"\|" "punctuation.definition.parameters.end",
    mark r"\*\*?|&" "keyword.operator",
    mark name "variable.parameter",
    mark r"," "punctuation.separator"]),
  ("operators", context [
    mark r"=>" "punctuation.separator.key-value",
    mark r"->" "keyword.operator.other",
    mark r"<<=|%=|&=|\*=|\*\*=|\+=|-=|\^=|\|\|?=|&&=|<<=|>>=|/="
      "keyword.operator.assignment.augmented",
    mark r"<=>|<(?!<|=)|>(?!<|=|>)|<=|>=|===|==|=~|!=|!~|(?<=[ \t])\?"
      "keyword.operator.comparison",
    mark r"&&|\|\||(?<=[ \t])!+|!" "keyword.operator.logical",
    mark r"%|&|\*\*|\*|\+|-|/" "keyword.operator.arithmetic",
    mark r"=" "keyword.operator.assignment",
    mark r"\||~|>>|<<|\^" "keyword.operator.other",
    mark r"\.\.\.?" "keyword.operator.other",
    mark r"::" "punctuation.accessor",
    mark r"\?|:" "keyword.operator.conditional"])]

/-- The contexts of comments and literals. -/
def literals : Grammar := [
  ("comments", context [
    push r"^=begin" "punctuation.definition.comment" ["block comment"],
    mark r"#.*$\n?" "comment.line.number-sign"]),
  ("block comment", context [pop r"^=end" "punctuation.definition.comment"]
    |>.whole "comment.block.documentation" |>.bare),
  ("literals", context [
    use "comments",
    mark r"\b0[xX]\h[\h_]*\b|\b0[bB][01_]+\b|\b0[oO]?[0-7_]+\b" "constant.numeric",
    mark r"\b\d[\d_]*(?:\.\d[\d_]*)?(?:[eE][-+]?\d[\d_]*)?[ri]*\b" "constant.numeric",
    push r":'" "punctuation.definition.constant" ["quoted symbol"],
    push r":\x22" "punctuation.definition.constant" ["double quoted symbol"],
    mark (r"(?<!:):(?:[a-zA-Z_]\w*(?:[?!]|=(?![>=~]))?|===?|>[>=]?|<=>|<[<=]?|[%&\x60/|]|" ++
      r"\*\*?|=?~|[-+]@?|\[\]=?|@@?[a-zA-Z_]\w*)") "constant.other.symbol",
    mark r"\b[a-zA-Z_]\w*[?!]?(:)(?!:)" "constant.other.symbol.19syntax",
    push r"'" "punctuation.definition.string.begin" ["single quoted"],
    push r"\x22" "punctuation.definition.string.begin" ["double quoted"],
    push r"\x60" "punctuation.definition.string.begin" ["command text"],
    push (beforeRegexp ++ r"\s*(/)(?![*+\x7b\x7d?])") "" ["regexp"]
      |>.parts [(1, "string.regexp.classic")],
    use "marked literals",
    mark (r"(?<!\w)\?(?:\\(?:x\h{1,2}(?!\h)\b|0?[0-7]{1,3}(?![0-7])\b|[^x0MC])|" ++
      r"(?:\\[MC]-)+\w|[^\s\\]\b)") "constant.numeric",
    push r"<<[-~](\x22?)((?:\w+_|)HTML)\b\1" "string.unquoted.embedded.html"
      ["here page", "here line"],
    push r"<<[-~](\x22?)((?:\w+_|)SQL)\b\1" "string.unquoted.embedded.sql"
      ["here query", "here line"],
    push r"<<[-~]?(\x22?)([A-Za-z_]\w*)\1" "string.unquoted.heredoc"
      ["here document", "here line"]]),
  ("single quoted", context [
    pop r"'" "punctuation.definition.string.end",
    mark r"\\['\\]" "constant.character.escape"] |>.whole "string.quoted.single" |>.bare),
  ("double quoted", context [
    pop r"\x22" "punctuation.definition.string.end",
    use "interpolation"] |>.whole "string.quoted.double" |>.bare),
  ("command text", context [
    pop r"\x60" "punctuation.definition.string.end",
    use "interpolation"] |>.whole "string.interpolated" |>.bare),
  ("quoted symbol", context [
    pop r"'" "punctuation.definition.constant",
    mark r"\\['\\]" "constant.character.escape"]
      |>.whole "constant.other.symbol.single-quoted" |>.bare),
  ("double quoted symbol", context [
    pop r"\x22" "punctuation.definition.constant",
    use "interpolation"] |>.whole "constant.other.symbol.double-quoted" |>.bare),
  ("here line", context [
    pop r"(?=\n)" "",
    use "statements"] |>.clear .all),
  ("here document", context [
    pop r"^\s*\2$" "punctuation.definition.string.end",
    use "interpolation"] |>.whole "string.unquoted.heredoc" |>.bare),
  ("here page", context [
    pop r"^\s*\2$" "punctuation.definition.string.end",
    use "html:main",
    use "interpolation"] |>.whole "string.unquoted.embedded.html" |>.bare),
  ("here query", context [
    pop r"^\s*\2$" "punctuation.definition.string.end",
    use "sql:main",
    use "interpolation"] |>.whole "string.unquoted.embedded.sql" |>.bare),
  ("regexp", context [
    pop r"/[eimnosux]*" "string.regexp.classic",
    use "regexp items"] |>.content "string.regexp.classic" |>.bare),
  ("regexp items", context [
    push r"#\x7b" "punctuation.section.interpolation.begin" ["interpolated code"],
    mark r"\\." "constant.character.escape",
    mark r"\x7b\d+(?:,\d*)?\x7d" "keyword.operator.quantifier",
    push r"\[(?:\^?\])?" "" ["regexp set"],
    push r"\(" "" ["regexp group"]]),
  ("regexp set", context [
    pop r"\]" "",
    mark r"\\." "constant.character.escape"] |>.bare),
  ("regexp group", context [
    pop r"\)" "",
    use "regexp items"] |>.bare),
  ("interpolation", context [
    mark r"\\(?:[0-7]{1,3}|x\h{1,2}|u\h{4}|u\x7b\h+\x7d|.)" "constant.character.escape",
    push r"#\x7b" "punctuation.section.interpolation.begin" ["interpolated code"],
    mark r"#@@?[a-zA-Z_]\w*" "variable.other.readwrite.instance",
    mark r"#\$[a-zA-Z_]\w*" "variable.other.readwrite.global"]),
  ("interpolated code", context [
    pop r"\x7d" "punctuation.section.interpolation.end",
    use "statements"] |>.clear (.some 1) |>.whole "meta.interpolation")]

/-- A context of what stands between brackets, which can be nested. -/
def nested (name opening closing scopes items : String) : String × Context :=
  (name, context [
    pop closing "punctuation.definition.string.end",
    push opening "" [name ++ " part"],
    use items] |>.whole scopes |>.bare)

/-- A context of brackets within what stands between brackets. -/
def nestedPart (name opening closing items : String) : String × Context :=
  (name ++ " part", context [
    pop closing "",
    push opening "" [name ++ " part"],
    use items] |>.bare)

/-- The brackets that can stand around a literal, with names for them. -/
def brackets : List (String × String × String) := [
  ("parentheses", r"\(", r"\)"), ("brackets", r"\[", r"\]"), ("angles", "<", ">"),
  ("braces", r"\x7b", r"\x7d")]

/-- A kind of literals with a percent sign. -/
structure MarkedLiteral where
  name : String
  /-- What starts the literals, up to their brackets. -/
  start : String
  scopes : String
  /-- What can stand in the literals. -/
  items : String

/-- The kinds of literals with a percent sign. -/
def markedLiterals : List MarkedLiteral := [
  ⟨"marked command", "%x", "string.interpolated", "interpolation"⟩,
  ⟨"marked text", "%[QWI]?", "string.quoted.other.literal.upper", "interpolation"⟩,
  ⟨"marked word", "%[qwsi]", "string.quoted.other.literal.lower", "escaped sign"⟩]

/-- The contexts of literals with a percent sign. -/
def marked : Grammar :=
  [("marked literals", context <|
    brackets.map (fun (name, opening, _) =>
      push ("%r" ++ opening) "string.regexp.mod-r" ["regexp in " ++ name]) ++
    markedLiterals.flatMap (fun l => brackets.map fun (name, opening, _) =>
      push (l.start ++ opening) "punctuation.definition.string.begin"
        [l.name ++ " in " ++ name]) ++ [
    push r"%r([^\w\s])" "string.regexp.mod-r" ["regexp between signs"],
    push r"%x([^\w\s])" "punctuation.definition.string.begin" ["command between signs"],
    push r"%[QWI]([^\w\s])" "punctuation.definition.string.begin" ["text between signs"],
    push r"%[qwsi]([^\w\s])" "punctuation.definition.string.begin" ["words between signs"],
    push r"%([^\w\s=])" "punctuation.definition.string.begin" ["text between signs"]]),
   ("escaped sign", context [mark r"\\." "constant.character.escape"]),
   ("regexp between signs", context [
    pop r"\1[eimnosux]*" "string.regexp.mod-r",
    use "regexp items"] |>.content "string.regexp.mod-r" |>.bare),
   ("command between signs", context [
    pop r"\1" "punctuation.definition.string.end",
    use "interpolation"] |>.whole "string.interpolated" |>.bare),
   ("text between signs", context [
    pop r"\1" "punctuation.definition.string.end",
    use "interpolation"] |>.whole "string.quoted.other.literal.upper" |>.bare),
   ("words between signs", context [
    pop r"\1" "punctuation.definition.string.end",
    use "escaped sign"] |>.whole "string.quoted.other.literal.lower" |>.bare)] ++
  brackets.map (fun (name, _, closing) =>
    ("regexp in " ++ name, context [
      pop (closing ++ "[eimnosux]*") "string.regexp.mod-r",
      use "regexp items"] |>.content "string.regexp.mod-r" |>.bare)) ++
  markedLiterals.flatMap (fun l => brackets.flatMap fun (name, opening, closing) => [
    nested (l.name ++ " in " ++ name) opening closing l.scopes l.items,
    nestedPart (l.name ++ " in " ++ name) opening closing l.items])

/-- The contexts of Ruby. -/
def contexts : Grammar :=
  statements ++ operators ++ literals ++ marked ++ html.embedded "html" ++ sql.embedded "sql"

end Ruby

/-- The grammar of Ruby. -/
def ruby : Grammar :=
  [("main", context [
    push r"^__END__\n" "string.unquoted.program-block" ["data"],
    use "statements"]),
   ("data", context [])] ++ Ruby.contexts

end DocPreview.Highlight.Language

import DocPreview.Highlight.Grammar

/-!
# The grammars of shell scripts and makefiles

The first word of a command is its name, and what follows up to the end of the command are its
arguments. The value that a variable is given is a string. Recipes of makefiles are read as commands
of the shell in which variables of the makefile come first.
-/

namespace DocPreview.Highlight.Language

open Grammar

/-! ### Shell scripts -/

namespace Shell

/-- A name of a variable. -/
def name : String := r"[[:alpha:]_][[:alnum:]_]*"

/-- Where a keyword ends. -/
def keywordEnd : String := r"(?=[\s;&|)])"

/-- The commands of the shell itself. -/
def builtins : String :=
  r"(?:alias|bg|bind|break|builtin|caller|cd|command|compgen|complete|continue|dirs|disown|" ++
    r"echo|enable|eval|exec|exit|false|fc|fg|getopts|hash|help|history|jobs|kill|logout|mapfile|" ++
    r"popd|printf|pushd|pwd|read|readarray|return|set|shift|shopt|source|suspend|test|times|" ++
    r"trap|true|type|ulimit|umask|unalias|unset|wait|:|\.)(?=[\s;&|)\x60]|$)"

/-- The contexts of commands. -/
def commands : Grammar := [
  ("comments", context [
    push r"(?:^|(?<=[\s;()]))#" "punctuation.definition.comment" ["comment"]]),
  ("comment", context [pop r"\n" ""] |>.whole "comment.line.number-sign"),
  ("commands", context [
    use "comments",
    mark r"\\\n" "punctuation.separator.continuation.line",
    mark r"&&|\|\|" "keyword.operator.logical",
    mark r";;&?|;&" "punctuation.terminator.case.clause",
    mark r";|\|&?|&(?!>)" "keyword.operator",
    mark r"!(?=\s)" "keyword.operator.logical",
    push r"\bfunction\s+" "storage.type.function" ["function name"],
    mark r"([^\s;&|()\x7b\x7d$'\x22\x60=]+)\s*\(\s*\)" "" |>.parts [(1, "entity.name.function")],
    push ("for" ++ keywordEnd) "keyword.control.for" ["for"],
    push ("select" ++ keywordEnd) "keyword.control" ["for"],
    push ("case" ++ keywordEnd) "keyword.control.case" ["case"],
    mark ("(?:if|then|elif|else|fi|while|until|do|done|esac|in|time|coproc)" ++ keywordEnd)
      "keyword.control",
    push r"\(\(" "punctuation.section.arithmetic.begin" ["arithmetic group"],
    push r"\[\[(?=\s)" "support.function.double-brace.begin" ["double test"],
    push r"\[(?=\s)" "support.function.test.begin" ["test"],
    mark r"[\x7b\x7d]" "punctuation.section.braces",
    push r"\(" "punctuation.section.parens.begin" ["subshell"],
    push ("(" ++ name ++ r")(?:\[[^\]]*\])?(\+?=)") "" ["value"]
      |>.parts [(1, "variable.other.readwrite.assignment"), (2, "keyword.operator.assignment")],
    push r"(?:export|local|declare|readonly|typeset)(?=[\s;&|)]|$)" "storage.modifier"
      ["declaration"],
    push r"let(?=\s)" "support.function.let" ["let"],
    push builtins "support.function" ["arguments"],
    use "redirections",
    use "expansions opening a command",
    push r"[^\s;&|()<>$'\x22\x60\x7b\x7d#]+" "variable.function" ["arguments"],
    use "strings"]),
  ("expansions opening a command", context [push r"(?=[$'\x22\x60])" "" ["arguments"]]),
  ("subshell", context [
    pop r"\)" "punctuation.section.parens.end",
    use "commands"]),
  ("function name", context [
    pop r"([^\s;&|()\x7b\x7d]+)\s*(?:\(\s*\))?" "" |>.parts [(1, "entity.name.function")],
    popElse]),
  ("for", context [
    set r"\(\(" "punctuation.section.arithmetic.begin" ["arithmetic group"],
    mark r"\bin(?=\s)" "keyword.control.in",
    pop r"(?=;)|$" "",
    mark r"\bdo(?=\s)" "keyword.control.do",
    use "words"]),
  ("case", context [
    set r"\bin(?=\s)" "keyword.control.in" ["case clauses"],
    use "words"]),
  ("case clauses", context [
    pop r"\besac\b" "keyword.control.case",
    use "comments",
    push r"\)" "punctuation.definition.case-pattern" ["case body"],
    mark r"\|" "keyword.operator.logical",
    use "words"]),
  ("case body", context [
    pop r";;&?|;&" "punctuation.terminator.case.clause",
    pop r"(?=\besac\b)" "",
    use "commands"]),
  ("declaration", context [
    pop r"(?=[;&|)\n\x60])|$" "",
    push ("(" ++ name ++ r")(?:\[[^\]]*\])?(\+?=)") "" ["value"]
      |>.parts [(1, "variable.other.readwrite.assignment"), (2, "keyword.operator.assignment")],
    mark r"\s+--?[[:alnum:]][-\w]*" "variable.parameter.option",
    mark name "variable.other.readwrite.assignment",
    use "words"]),
  ("value", context [
    set r"\(" "punctuation.section.array.begin" ["array"],
    set r"(?=[^\s;&|)])" "" ["string value"],
    popNow] |>.bare),
  ("string value", context [
    pop r"(?=[\s;&|)])|$" "",
    use "strings",
    use "expansions"] |>.whole "string.unquoted"),
  ("array", context [
    pop r"\)" "punctuation.section.array.end",
    use "comments",
    use "words"]),
  ("let", context [
    pop r"$" "",
    use "strings",
    use "arithmetic"]),
  ("arguments", context [
    pop r"(?=[;|)\n\x60]|&(?!>))|$" "",
    use "comments",
    mark r"\s+--?[[:alnum:]][-\w]*" "variable.parameter.option",
    mark r"\s+--(?=\s)" "keyword.operator.end-of-options",
    use "redirections",
    use "words"]),
  ("redirections", context [
    push r"(<<)-?\s*['\x22\\]?(\w+)['\x22]?" "" ["here document", "here line"]
      |>.parts [(1, "keyword.operator.heredoc"), (2, "keyword.control.heredoc-token")],
    mark r"<<<" "keyword.operator.herestring",
    mark r"(\d*)([<>]&|&>>?|>>|>\||<>|[<>])(\d+|-)?" "" |>.parts [
      (1, "constant.numeric.integer.decimal.file-descriptor"),
      (2, "keyword.operator.assignment.redirection"),
      (3, "constant.numeric.integer.decimal.file-descriptor")]]),
  ("here line", context [
    pop r"\n" "",
    use "commands"]),
  ("here document", context [
    pop r"^\t*(\2)$" "" |>.parts [(1, "keyword.control.heredoc-token")],
    use "expansions"] |>.content "string.unquoted.heredoc")]

/-- The contexts of words, strings and expansions. -/
def words : Grammar := [
  ("words", context [
    use "strings",
    use "expansions",
    mark r"\\\n" "punctuation.separator.continuation.line",
    mark r"\\." "constant.character.escape",
    mark r"(?<=\s)~" "variable.language.tilde",
    mark r"[*?]" "keyword.operator"]),
  ("strings", context [
    push r"'" "string.quoted.single" ["single quoted"],
    push r"\$'" "string.quoted.single" ["ANSI quoted"],
    push r"\$?\x22" "punctuation.definition.string.begin" ["double quoted"]]),
  ("single quoted", context [pop r"'" "string.quoted.single"] |>.content "string.quoted.single"
    |>.bare),
  ("ANSI quoted", context [
    pop r"'" "string.quoted.single",
    mark r"\\(?:[abeEfnrtv\\'\x22?]|[0-7]{1,3}|x\h{1,2}|u\h{1,4}|c.)" "constant.character.escape"]
      |>.content "string.quoted.single" |>.bare),
  ("double quoted", context [
    pop r"\x22" "punctuation.definition.string.end",
    mark r"\\[$\x60\x22\\\n]" "constant.character.escape",
    use "expansions"] |>.whole "string.quoted.double" |>.bare),
  ("expansions", context [
    push r"\$\(\(" "punctuation.section.arithmetic.begin" ["arithmetic group"],
    push r"\$\(" "punctuation.section.parens.begin" ["substitution"],
    push r"\$\x7b(?:[!#](?=[\w@*]))?" "punctuation.section.expansion.parameter.begin" ["parameter"],
    mark ("\\$(" ++ name ++ ")") "" |>.parts [(1, "variable.other.readwrite")],
    mark r"\$([*@#?$!0-9_-])" "" |>.parts [(1, "variable.language")],
    push r"\x60" "punctuation.section.group.begin" ["backquoted"]]),
  ("substitution", context [
    pop r"\)" "punctuation.section.parens.end",
    use "commands"]),
  ("backquoted", context [
    pop r"\x60" "punctuation.section.group.end",
    use "commands"]),
  ("parameter", context [
    pop r"\x7d" "punctuation.section.expansion.parameter.end",
    push r"\[" "punctuation.section.brackets.begin" ["subscript"],
    mark r":?[-=?+]|##?|%%?|\^\^?|,,?|//?|:|@" "keyword.operator.expansion",
    mark ("(?<=[\x7b!#])" ++ name) "variable.other.readwrite",
    mark r"(?<=[\x7b!#])[*@?$!0-9_-]" "variable.language",
    use "strings",
    use "expansions"]),
  ("subscript", context [
    pop r"\]" "punctuation.section.brackets.end",
    mark r"[*@]" "variable.language.array",
    use "arithmetic"]),
  ("arithmetic group", context [
    pop r"\)\)" "punctuation.section.arithmetic.end",
    push r"\(" "punctuation.section.parens.begin" ["parenthesized"],
    use "strings",
    mark name "variable.other.readwrite",
    use "arithmetic"]),
  ("parenthesized", context [
    pop r"\)" "punctuation.section.parens.end",
    mark name "variable.other.readwrite",
    use "arithmetic"]),
  ("arithmetic", context [
    use "expansions",
    mark r"0[xX]\h+|\d+#[\w@]+|\d+" "constant.numeric.integer",
    mark r"\+\+|--|\*\*|<<=?|>>=?|[-+*/%&|^=!<>]=?|&&|\|\||[~?:,]" "keyword.operator.arithmetic"]),
  ("double test", context [
    pop r"\]\]" "support.function.double-brace.end",
    use "test words"]),
  ("test", context [
    pop r"\]" "support.function.test.end",
    use "test words"]),
  ("test words", context [
    mark r"(?<=\s)-(?:ef|nt|ot|eq|ne|lt|le|gt|ge|a|o)(?=\s)" "keyword.operator.logical",
    mark r"(?<=\s)-[[:alpha:]](?=\s)" "variable.parameter.option",
    mark r"&&|\|\||==|=~|!=|=|!|<|>" "keyword.operator.logical",
    use "words"])]

end Shell

section

open Shell

/-- The grammar of shell scripts. -/
def shell : Grammar :=
  [("main", context [
    mark r"^#!.*$\n?" "comment.line.number-sign.shebang",
    use "commands"])] ++ commands ++ words

end

/-! ### Makefiles -/

namespace Makefile

/-- The contexts of variables and functions. -/
def variableUses : Grammar := [
  ("variables", context [
    mark r"\$\$" "constant.character.escape",
    mark r"\$[@%<?^+*]" "variable.language.automatic",
    push r"\$\(" "keyword.other.block.begin" ["parenthesized variable"],
    push r"\$\x7b" "keyword.other.block.begin" ["braced variable"],
    mark r"\$[A-Za-z_]" "variable.parameter"]),
  ("parenthesized variable", context [
    pop r"\)" "keyword.other.block.end",
    use "variable items"]),
  ("braced variable", context [
    pop r"\x7d" "keyword.other.block.end",
    use "variables",
    mark r"[^\x7d$\n]+" "variable.parameter"]),
  ("variable items", context [
    use "variables",
    set (r"(?:subst|patsubst|strip|findstring|filter|filter-out|sort|word|wordlist|words|" ++
      r"firstword|lastword|dir|notdir|suffix|basename|addsuffix|addprefix|join|wildcard|" ++
      r"realpath|abspath|error|warning|info|origin|flavor|foreach|if|or|and|eval|file|" ++
      r"value|guile)(?=\s)") "support.function" ["function arguments"],
    set r"(call)\s+([^\s,)$]+)" "" ["function arguments"]
      |>.parts [(1, "constant.language.call"), (2, "variable.function")],
    push r"shell(?=\s)" "support.function" ["shell arguments"],
    mark r"[@%<?^+*][DF]?(?=[)\x7d])" "variable.language.automatic",
    push r":" "punctuation.definition.substitution" ["substitution"],
    mark r"[^\s:#=()\x7b\x7d$,]+" "variable.parameter"]),
  ("function arguments", context [
    pop r"[)\x7d]" "keyword.other.block.end",
    use "variables",
    mark r"," "punctuation.separator",
    mark r"[%*]" "variable.language.wildcard",
    push r"\(" "" ["group"]]),
  ("shell arguments", context [
    pop r"(?=[)\x7d])" "",
    use "variables",
    use "shell:commands"]),
  ("group", context [
    pop r"\)" "",
    use "variables"]),
  ("substitution", context [
    pop r"(?=[)\x7d])" "",
    use "variables",
    mark r"=" "punctuation.definition.assignment",
    mark r"%" "variable.language"])]

/-- Where a name can start; the name of a variable has one sign if it stands in no brackets. -/
def wordStart : String := r"(?:(?<!\w)|(?<=\$\w))"

/-- The contexts of rules, assignments and directives. -/
def statements : Grammar := [
  ("comments", context [
    push r"#" "punctuation.definition.comment" ["comment"]]),
  ("comment", context [
    mark r"\\\n" "punctuation.separator.continuation",
    pop r"(?=\n)|$" ""] |>.whole "comment.line.number-sign"),
  ("main", context [
    use "comments",
    push r"^\t" "" ["recipe"],
    push r"^\s*(-?include|sinclude)\b" "" ["file names"]
      |>.parts [(1, "keyword.control.import")],
    push r"(?:^|(?<=else))\s*(ifeq|ifneq|ifdef|ifndef)\b" "" ["condition"]
      |>.parts [(1, "keyword.control.conditional")],
    mark r"^\s*(else|endif)\b" "" |>.parts [(1, "keyword.control.conditional")],
    push r"^\s*(define)\b(.*\n?)" "" ["definition"]
      |>.parts [(1, "keyword.control.define"), (2, "variable.other")],
    push (r"^\s*(export|unexport|override|private|undefine)\b" ++
      r"([^:=?!+$\n]*[^\s:=?!+$])?") "" ["assignment"]
      |>.parts [(1, "keyword.control"), (2, "variable.other")],
    push r"^\s*(vpath)\b[ \t]*(?:\S+[ \t]*)?" "" ["search path"] |>.parts [(1, "keyword.control")],
    push (wordStart ++ r"(?=[^\s#:=?!+$\\][^#:=?!+\n]*\s*(?:::?=|\?=|!=|\+=|=))") ""
      ["assigned name"],
    push (wordStart ++ r"(?=[^\s#][^#=\n]*?:(?!=))") "" ["targets"],
    use "variables"]),
  ("assigned name", context [
    use "assignment",
    mark r"[^\s:=?!+$](?:[^:=?!+$\n]*[^\s:=?!+$])?" "variable.other"]),
  ("assignment", context [
    set r"\s*(::?=|\?=|\+=|!=|=)[ \t]*" "" ["assigned value"]
      |>.parts [(1, "keyword.operator.assignment")],
    use "comments",
    use "variables",
    pop r"\n" ""]),
  ("search path", context [
    pop r"(?=\n)|(?=#)" "",
    use "variables"] |>.content "string.unquoted"),
  ("assigned value", context [
    mark r"\\\n" "punctuation.separator.continuation",
    pop r"(?=\n)|(?=#)" "",
    use "variables"] |>.content "string.unquoted"),
  ("targets", context [
    set r"(::?)[ \t]*" "" ["prerequisites"] |>.parts [(1, "keyword.operator.assignment")],
    use "variables",
    mark r"%" "variable.language",
    mark r"[^\s:%$]+" "entity.name.function.target"]),
  ("prerequisites", context [
    set r"[ \t]*\n" "" ["recipes"],
    set r"[ \t]*;" "punctuation.terminator" ["recipes", "recipe line"],
    use "comments",
    mark r"\\\n" "punctuation.separator.continuation",
    use "variables",
    mark r"%" "variable.language",
    mark r"[ \t]+(?![\n;])|[^\s%$#;\\]+" "string.unquoted"]),
  ("recipes", context [
    pop r"^(?!\t|\s*$|\s*#)" "",
    push r"^\t" "" ["recipe"],
    use "comments"]),
  ("recipe", context [
    mark r"[@+-]+" "constant.language",
    use "recipe line"]),
  ("recipe line", context [
    set r"(?=\S)" "" ["recipe end", "shell:commands"] |>.over "recipe variables",
    pop r"\n" ""]),
  ("recipe variables", context [
    pop r"(?<!\\)(?=\n)" "",
    use "variables"]),
  ("recipe end", context [
    pop r"\n" "",
    popElse]),
  ("file names", context [
    pop r"\n" "",
    use "comments",
    use "variables",
    mark r"[^\s$#]+" "string.unquoted"]),
  ("condition", context [
    pop r"\n" "",
    use "comments",
    use "variables",
    push r"\x22" "punctuation.definition.string.begin" ["quoted"],
    push r"'" "punctuation.definition.string.begin" ["single quoted"],
    mark r"[(),]" "punctuation.section.group"]),
  ("quoted", context [
    pop r"\x22|(?=\n)" "punctuation.definition.string.end",
    use "variables"] |>.whole "string.quoted.double"),
  ("single quoted", context [
    pop r"'|(?=\n)" "punctuation.definition.string.end",
    use "variables"] |>.whole "string.quoted.single"),
  ("definition", context [
    pop r"^\s*endef\b" "keyword.control.define"] |>.content "string.unquoted")]

end Makefile

open Makefile

/-- The grammar of makefiles. -/
def makefile : Grammar := statements ++ variableUses ++ shell.embedded "shell"

end DocPreview.Highlight.Language

import DocPreview.Highlight.Grammar
import DocPreview.Highlight.Language.Html

/-!
# The grammars of Lua and Tcl
-/

namespace DocPreview.Highlight.Language

open Grammar

/-! ### Lua -/

namespace Lua

/-- What stands before a name that is no member of a table. -/
def notMember : String := r"(?<![^.]\.|:)"

/-- What starts the arguments of a function. -/
def argumentsAhead : String := r"(?=[( \x7b\x22'\[])"

/-- The contexts of Lua. -/
def contexts : Grammar := [
  ("main", context [
    mark (r"\b(function)(?:\s+([a-zA-Z_.:]+[.:])?([a-zA-Z_]\w*)\s*)?(\()([^)]*)(\))") ""
      |>.parts [(1, "keyword.control"), (2, "entity.name.function.scope"),
        (3, "entity.name.function"), (4, "punctuation.definition.parameters.begin"),
        (5, "variable.parameter.function"), (6, "punctuation.definition.parameters.end")],
    mark (r"(?<![\d.])(?:0[xX]\h+(?:\.\h*)?(?:[pP][-+]?\d+)?|\d+(?:\.\d*)?(?:[eE][-+]?\d+)?|" ++
      r"\.\d+(?:[eE][-+]?\d+)?)") "constant.numeric",
    push r"'" "punctuation.definition.string.begin" ["single quoted"],
    push r"\x22" "punctuation.definition.string.begin" ["double quoted"],
    push r"--\[(=*)\[" "punctuation.definition.comment.begin" ["block comment"],
    push r"(?<!--)\[(=*)\[" "punctuation.definition.string.begin" ["long text"],
    mark r"--.*$\n?" "comment.line.double-dash",
    mark (r"\b(?:break|do|else|for|if|elseif|return|then|repeat|while|until|end|function|" ++
      r"local|in)\b") "keyword.control",
    mark (notMember ++ r"\b(?:false|nil|true|_G|_VERSION|math\.(?:pi|huge))\b|(?<![.])\.{3}(?!\.)")
      "constant.language",
    mark (notMember ++ r"\bself\b") "variable.language.self",
    mark (notMember ++ r"\b(?:assert|collectgarbage|dofile|error|getfenv|getmetatable|ipairs|" ++
      r"loadfile|loadstring|module|next|pairs|pcall|print|rawequal|rawget|rawset|require|" ++
      r"select|setfenv|setmetatable|tonumber|tostring|type|unpack|xpcall)\b" ++ argumentsAhead)
      "support.function",
    mark (notMember ++ r"\b(?:coroutine\.(?:create|resume|running|status|wrap|yield)|string\." ++
      r"(?:byte|char|dump|find|format|gmatch|gsub|len|lower|match|rep|reverse|sub|upper)|" ++
      r"table\.(?:concat|insert|maxn|remove|sort)|math\.(?:abs|acos|asin|atan2?|ceil|cosh?|deg|" ++
      r"exp|floor|fmod|frexp|ldexp|log|log10|max|min|modf|pow|rad|random|randomseed|sinh?|sqrt|" ++
      r"tanh?)|io\.(?:close|flush|input|lines|open|output|popen|read|tmpfile|type|write)|os\." ++
      r"(?:clock|date|difftime|execute|exit|getenv|remove|rename|setlocale|time|tmpname)|" ++
      r"package\.(?:cpath|loaded|loadlib|path|preload|seeall)|debug\.(?:debug|[gs]etfenv|" ++
      r"[gs]ethook|getinfo|[gs]etlocal|[gs]etmetatable|getregistry|[gs]etupvalue|traceback))\b" ++
      argumentsAhead) "support.function.library",
    mark r"\b(?:and|or|not)\b" "keyword.operator",
    mark r"\+|-|%|#|\*|/|\^|==?|~=|<=?|>=?|(?<!\.)\.{2}(?!\.)" "keyword.operator"]),
  ("single quoted", context [
    pop r"'" "punctuation.definition.string.end",
    use "escapes"] |>.whole "string.quoted.single"),
  ("double quoted", context [
    pop r"\x22" "punctuation.definition.string.end",
    use "escapes"] |>.whole "string.quoted.double"),
  ("escapes", context [
    mark r"\\(?:\d{1,3}|x\h\h|[abfnrtv\\'\x22\n])" "constant.character.escape"]),
  ("long text", context [pop r"\]\1\]" "punctuation.definition.string.end"]
    |>.whole "string.quoted.other.multiline"),
  ("block comment", context [pop r"\]\1\]" "punctuation.definition.comment.end"]
    |>.whole "comment.block")]

end Lua

/-- The grammar of Lua. -/
def lua : Grammar := Lua.contexts

/-! ### Tcl, and HTML with Tcl in it

A command is known only where it comes first: at the start of a line, or behind a bracket or a
semicolon. The arguments of a command that controls others are read as code with operators; the
words in braces of any other command are plain text.
-/

namespace Tcl

/-- The place where a command can stand. -/
def first : String := r"(?:^|(?<=[\[;]))\s*"

/-- The commands that control others. -/
def control : String :=
  "if|while|for|catch|default|return|break|continue|switch|exit|foreach|try|throw"

/-- The other commands of the language. -/
def commands : String :=
  "after|append|array|auto_execok|auto_import|auto_load|auto_mkindex|auto_mkindex_old|" ++
    "auto_qualify|auto_reset|bgerror|binary|cd|clock|close|concat|dde|dict|encoding|eof|error|" ++
    "eval|exec|fblocked|fconfigure|fcopy|file|fileevent|filename|flush|format|gets|glob|" ++
    "global|history|http|incr|info|interp|join|lappend|library|lindex|linsert|list|llength|" ++
    "load|lrange|lreplace|lsearch|lset|lsort|memory|msgcat|namespace|open|package|parray|pid|" ++
    "pkg::create|pkg_mkIndex|proc|puts|pwd|re_syntax|read|registry|rename|resource|scan|seek|" ++
    "set|socket|SafeBase|source|split|string|subst|Tcl|tcl_endOfWord|tcl_findLibrary|" ++
    "tcl_startOfNextWord|tcl_startOfPreviousWord|tcl_wordBreakAfter|tcl_wordBreakBefore|" ++
    "tcltest|tclvars|tell|time|trace|unknown|unset|update|uplevel|upvar|variable|vwait"

/-- The contexts of code. -/
def contexts : Grammar := [
  ("main", context [
    use "code",
    push r"\x7b" "punctuation.section.block.begin" ["plain braces"]]),
  ("code", context [
    push (r"(?:^|(?<=;))(\s*)(#)") "" ["comment"] |>.parts [(2, "comment.line.number-sign")],
    push (first ++ r"(proc)\s+(\S+)\s*") "" ["procedure body", "parameters"]
      |>.parts [(1, "keyword.other"), (2, "entity.name.function")],
    push (first ++ r"(namespace)\s+(eval)\s+([^\s\x7b$\[]+)\s*") "" ["procedure body"]
      |>.parts [(1, "keyword.other"), (3, "entity.name.namespace")],
    push (first ++ "(" ++ control ++ r")\b") "" ["arguments"] |>.parts [(1, "keyword.control")],
    push r"(?:^|(?<=\x7d))\s*(then|elseif|else)\b" "" ["arguments"]
      |>.parts [(1, "keyword.control")],
    push (first ++ r"(expr)\b") "" ["arguments"] |>.parts [(1, "keyword.other")],
    mark (first ++ "(" ++ commands ++ r")\b") "" |>.parts [(1, "keyword.other")],
    push (first ++ r"(regexp|regsub)\b\s*") "" ["regexp"] |>.parts [(1, "keyword.other")],
    mark (first ++ r"((?:::)?[[:alpha:]_]\w*(?:::\w+)*)") "" |>.parts [(1, "variable.function")],
    use "values"]),
  ("values", context [
    use "escapes",
    use "strings",
    use "variables",
    use "numbers",
    push r"\[" "punctuation.section.brackets.begin" ["brackets"]]),
  ("numbers", context [
    mark r"(?<![\w.])(?:0[xX]\h+|0[oO][0-7]+|0[bB][01]+|\d+(?:\.\d+)?(?:[eE][-+]?\d+)?)\b"
      "constant.numeric"]),
  ("operators", context [
    mark (r"==|!=|<=|>=|&&|\|\||\*\*|<<|>>|--|[-+*/%<>!&|^~?:]|" ++
      r"(?<=[\s)])(?:eq|ne|in|ni)(?=[\s(])") "keyword.operator"]),
  ("comment", context [
    pop r"\n" "comment.line.number-sign",
    mark r"\\(?:\\|\n)" "constant.character.escape"] |>.content "comment.line.number-sign"),
  ("parameters", context [
    set r"\x7b" "punctuation.section.group.begin" ["parameter list"],
    pop r"(?=\S)" ""]),
  ("parameter list", context [
    pop r"\x7d" "punctuation.section.group.end",
    push r"\x7b" "punctuation.section.group.begin" ["parameter with default"],
    mark r"[^\s\x7b\x7d]+" "variable.parameter"]),
  ("parameter with default", context [
    pop r"\x7d" "punctuation.section.group.end",
    set r"[^\s\x7b\x7d]+" "variable.parameter" ["default value"]]),
  ("default value", context [
    pop r"\x7d" "punctuation.section.group.end",
    use "values",
    push r"\x7b" "" ["plain braces"]]),
  ("procedure body", context [
    set r"\x7b" "punctuation.section.block.begin" ["body"],
    popElse]),
  ("body", context [
    pop r"\x7d" "punctuation.section.block.end",
    use "main"]),
  ("arguments", context [
    pop r"(?=[\n;\]\x7d])" "",
    mark r"(?<=\x7d)\s*(then|elseif|else)\b" "" |>.parts [(1, "keyword.control")],
    push r"\x7b" "punctuation.section.block.begin" ["block"],
    use "operators",
    use "values"]),
  ("block", context [
    pop r"\x7d" "punctuation.section.block.end",
    use "code",
    use "operators",
    push r"\x7b" "punctuation.section.block.begin" ["plain braces"]]),
  ("plain braces", context [
    pop r"\x7d" "punctuation.section.block.end",
    mark r"\\[\x7b\x7d\n]" "constant.character.escape",
    push r"\x7b" "punctuation.section.block.begin" ["plain braces"]]),
  ("brackets", context [
    pop r"\]" "punctuation.section.brackets.end",
    use "main"]),
  ("regexp", context [
    pop r"(?=[\n;\]])" "",
    mark r"\\(?:.|\n)" "constant.character.escape",
    mark r"-\w+\s*" "",
    mark r"--\s*" "",
    set r"\x7b" "" ["rest of command", "braced regexp"],
    set r"(?=\S)" "" ["rest of command", "plain regexp"]]),
  ("braced regexp", context [
    pop r"\x7d" "",
    mark r"\\." "constant.character.escape",
    push r"\x7b" "" ["inner braces"]] |>.content "string.regexp"),
  ("inner braces", context [
    pop r"\x7d" "",
    mark r"\\." "constant.character.escape",
    push r"\x7b" "" ["inner braces"]]),
  ("plain regexp", context [
    pop r"(?=[\s\];])" "",
    mark r"\\." "constant.character.escape",
    use "variables"] |>.content "string.regexp"),
  ("rest of command", context [
    pop r"(?=[\n;\]])" "",
    use "values",
    push r"\x7b" "" ["plain braces"]]),
  ("escapes", context [
    mark r"\\(?:\d{1,3}|x\h+|u\h{1,4}|.|\n)" "constant.character.escape"]),
  ("strings", context [
    push r"\x22" "punctuation.definition.string.begin" ["text"]]),
  ("text", context [
    pop r"\x22" "punctuation.definition.string.end",
    use "escapes",
    use "variables",
    push r"\[" "punctuation.section.embedded.begin" ["embedded code"]]
      |>.whole "string.quoted.double"),
  ("embedded code", context [
    pop r"\]" "punctuation.section.embedded.end",
    use "main"] |>.clear (.some 1)),
  ("variables", context [
    mark r"\$(?:(?:[a-zA-Z0-9_]|::)+(?:\([^)]+\))?|\x7b[^\x7d]*\x7d)" "variable.other"])]

end Tcl

/-- The grammar of Tcl. -/
def tcl : Grammar := Tcl.contexts

/-- The grammar of HTML in which code in Tcl stands between tags with percent signs. -/
def htmlWithTcl : Grammar :=
  [("main", context [push "" "" ["html:main"] |>.over "code tags"]),
   ("code tags", context [push r"<%=?" "punctuation.section.embedded.begin" ["code"]]),
   ("code", context [
    pop r"%>" "punctuation.section.embedded.end",
    use "tcl:main"])] ++ html.embedded "html" ++ tcl.embedded "tcl"

end DocPreview.Highlight.Language

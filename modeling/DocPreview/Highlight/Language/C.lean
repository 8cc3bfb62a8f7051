import DocPreview.Highlight.Grammar

/-!
# The grammar of C

A line outside functions that starts with a word is read as a declaration: modifiers and a type, and
then perhaps a function or a structure with its name. All else is read as expressions. The parts
that other languages of the family share are definitions of their own.
-/

namespace DocPreview.Highlight.Language

open Grammar

namespace C

/-- A name. -/
def name : String := r"\b[[:alpha:]_][[:alnum:]_]*\b"

/-- A name of a macro. -/
def macroName : String := r"\b[[:upper:]_][[:upper:][:digit:]_]{2,}\b"

/-- The words of statements. -/
def control : String :=
  "break|case|continue|default|do|else|for|goto|if|_Pragma|return|switch|while"

/-- The types of the language. -/
def basicTypes : String :=
  "asm|__asm__|auto|bool|_Bool|char|_Complex|double|float|_Imaginary|int|long|short|signed|" ++
    "unsigned|void"

/-- The words before a declaration. -/
def modifiers : String :=
  "static|extern|register|_Thread_local|const|volatile|inline|restrict|__restrict__|__restrict"

/-- The contexts of comments. -/
def comments : Grammar := [
  ("comments", context [
    push r"/\*" "punctuation.definition.comment.begin" ["block comment"],
    push r"//" "punctuation.definition.comment.begin" ["line comment"]]),
  ("block comment", context [pop r"\*/" "punctuation.definition.comment.end"]
    |>.whole "comment.block" |>.bare),
  ("line comment", context [
    mark r"(\\)\n" "" |>.parts [(1, "punctuation.separator.continuation")],
    pop r"(?=\n)" ""] |>.whole "comment.line.double-slash" |>.bare)]

/-- What can stand behind a number as the name of its unit. -/
def literalEnd : String := r"i[fl]?|h|min|[mun]?s|_\w*"

/-- What can stand behind a number with a fraction. -/
def floatEnd : String := "[fFlL]|" ++ literalEnd

/-- The contexts of numbers and texts. -/
def literals : Grammar := [
  ("numbers", context [
    mark (r"(?:(?:\b\d(?:[\d']*\d)?\.\d(?:[\d']*\d)?|\B\.\d(?:[\d']*\d)?)(?:[Ee][+-]?\d+)?" ++
      "(?:" ++ floatEnd ++ r")?\b|\b\d(?:[\d']*\d)?\.(?:\B|(?:" ++ floatEnd ++
      r")\b|(?:[Ee][+-]?\d+)(?:" ++ floatEnd ++ r")?\b)|\b\d(?:[\d']*\d)?[Ee][+-]?\d+(?:" ++
      floatEnd ++ r")?\b|\b(?:[1-9](?:[\d']*\d)?|0(?:[0-7']*[0-7])?|0[Xx]\h(?:[\h']*\h)?|" ++
      r"0[Bb][01](?:[01']*[01])?)(?:(?:ll?|LL?)[uU]?|[uU](?:l{0,2}|L{0,2})|" ++ literalEnd ++
      r")?\b)(?!\.)") "constant.numeric"]),
  ("strings", context [
    push r"(\b(?:L|u8|u|U))?(\x22)" "" ["double quoted"] |>.parts [
      (1, "storage.type.string"), (2, "punctuation.definition.string.begin")],
    push r"(\b(?:L|u|U))?(')" "" ["single quoted"] |>.parts [
      (1, "storage.type.string"), (2, "punctuation.definition.string.begin")]]),
  ("double quoted", context [
    pop r"\x22" "punctuation.definition.string.end",
    use "escapes",
    mark (r"%(?:\d+\$)?[#0\- +']*[,;:_]?(?:-?\d+|\*(?:-?\d+\$)?)?(?:\.(?:-?\d+|" ++
      r"\*(?:-?\d+\$)?)?)?" ++
      r"(?:hh|h|ll|l|j|t|z|q|L|vh|vl|v|hv|hl)?[diouxXDOUeEfFgGaACcSspn%]")
      "constant.other.placeholder",
    mark r"%" "invalid.illegal.placeholder",
    mark r"\\\n" "punctuation.separator.continuation",
    pop r"\n" "invalid.illegal.unclosed-string"] |>.whole "string.quoted.double" |>.bare),
  ("single quoted", context [
    pop r"'" "punctuation.definition.string.end",
    use "escapes",
    mark r"\\\n" "punctuation.separator.continuation",
    pop r"\n" "invalid.illegal.unclosed-string"] |>.whole "string.quoted.single" |>.bare),
  ("escapes", context [
    mark r"\\(?:\\|[abefnprtv'\x22?]|[0-3]\d?\d?|[4-7]\d?|x\h{0,2}|u\h{0,8}|U\h{0,8})"
      "constant.character.escape",
    mark r"\\." "invalid.illegal.unknown-escape"])]

/-- The contexts of lines for the preprocessor; `define` lines go on with the context `macro`. -/
def preprocessor : Grammar := [
  ("preprocessor", context [
    push r"^\s*(#\s*if)\s+(0)\b" "" ["disabled"] |>.parts [
      (1, "meta.preprocessor keyword.control.import"),
      (2, "meta.preprocessor constant.numeric.preprocessor")],
    push r"^\s*(#\s*define)\b" "" ["macro name"]
      |>.parts [(1, "meta.preprocessor.macro keyword.control.import.define")],
    push r"^\s*(#\s*(?:error|warning))\b" "" ["diagnostic"]
      |>.parts [(1, "keyword.control.import.error")],
    push r"^\s*(#\s*(?:include|include_next|import))\b" "" ["inclusion"]
      |>.parts [(1, "keyword.control.import.include")],
    push r"^\s*(#\s*(?:elif|else|if|ifdef|ifndef|line|pragma|undef))\b" "" ["directive"]
      |>.parts [(1, "keyword.control.import")],
    mark r"^\s*(#\s*endif)\b" ""
      |>.parts [(1, "meta.preprocessor keyword.control.import")]]),
  ("line ends", context [
    mark r"(\\)\s*\n" "" |>.parts [(1, "punctuation.separator.continuation")],
    pop r"\n" ""]),
  ("directive", context [
    use "line ends",
    use "comments",
    mark r"\bdefined\b" "keyword.control",
    use "numbers",
    use "strings",
    use "operators",
    use "constants"] |>.whole "meta.preprocessor" |>.bare),
  ("inclusion", context [
    use "line ends",
    use "comments",
    push r"\x22" "punctuation.definition.string.begin" ["quoted file"],
    push r"<" "punctuation.definition.string.begin" ["system file"]]
      |>.whole "meta.preprocessor.include" |>.bare),
  ("quoted file", context [
    pop r"\x22" "punctuation.definition.string.end",
    pop r"(?=\n)" ""] |>.whole "string.quoted.double.include" |>.bare),
  ("system file", context [
    pop r">" "punctuation.definition.string.end",
    pop r"(?=\n)" ""] |>.whole "string.quoted.other.lt-gt.include" |>.bare),
  ("diagnostic", context [
    use "line ends",
    use "comments",
    use "strings",
    mark r"[^\\\n\x22'/]+" "string.unquoted"] |>.whole "meta.preprocessor.diagnostic" |>.bare),
  ("disabled", context [
    pop r"^\s*(#\s*endif)\b" "" |>.parts [(1, "meta.preprocessor keyword.control.import")],
    set r"^\s*(#\s*(?:else|elif))\b" "" ["directive"]
      |>.parts [(1, "meta.preprocessor keyword.control.import")],
    push r"^\s*#\s*if" "" ["disabled branch"],
    mark r".+" "comment.block.preprocessor"] |>.bare),
  ("disabled branch", context [
    pop r"^\s*#\s*endif\b.*" "comment.block.preprocessor",
    push r"^\s*#\s*if" "" ["disabled branch"]] |>.whole "comment.block.preprocessor" |>.bare),
  ("macro name", context [
    use "line ends",
    use "comments",
    set (name ++ r"(?=\()") "entity.name.function.preprocessor" ["macro head"],
    set name "entity.name.constant.preprocessor" ["macro"]]
      |>.content "meta.preprocessor.macro" |>.bare),
  ("macro head", context [
    set r"\(" "punctuation.section.group.begin" ["macro parameters"],
    popNow] |>.content "meta.preprocessor.macro.parameters" |>.bare),
  ("macro parameters", context [
    use "line ends",
    set r"\)" "punctuation.section.group.end" ["macro"],
    use "comments",
    mark r"\.\.\." "keyword.operator.variadic",
    mark name "variable.parameter"] |>.content "meta.preprocessor.macro.parameters" |>.bare),
  ("macro", context [
    use "line ends",
    use "comments",
    mark r"\x7b" "punctuation.section.block.begin",
    mark r"\x7d" "punctuation.section.block.end",
    use "expressions"] |>.content "meta.preprocessor.macro" |>.bare)]

/-- The contexts of operators and constants. -/
def operators : Grammar := [
  ("operators", context [
    mark r"<<=|>>=|[-+*/%&|^]=" "keyword.operator.assignment.augmented",
    mark r"==|!=|<=|>=" "keyword.operator.comparison",
    mark r"\+\+|--|&&|\|\||<<|>>|\.\.\." "keyword.operator",
    push r"->\*?|\.(?!\.)" "punctuation.accessor" ["member"],
    mark r"[-+*/%<>&|^~!=?:]" "keyword.operator"]),
  ("member", context [
    pop (name ++ r"(?=\s*\()") "variable.function.member",
    pop name "variable.other.readwrite.member",
    pop r"(?=\S)" ""]),
  ("constants", context [
    mark r"\b(?:NULL|true|false|TRUE|FALSE)\b" "constant.language"])]

/-- The types of libraries. -/
def libraryTypes : Grammar := [
  ("library types", context [
    mark (r"\b(?:u_char|u_short|u_int|u_long|ushort|uint|u_quad_t|quad_t|qaddr_t|caddr_t|" ++
      r"daddr_t|" ++
      r"dev_t|fixpt_t|blkcnt_t|blksize_t|gid_t|in_addr_t|in_port_t|ino_t|key_t|mode_t|nlink_t|" ++
      r"id_t|pid_t|off_t|segsz_t|swblk_t|uid_t|clock_t|size_t|ssize_t|time_t|useconds_t|" ++
      r"suseconds_t)\b") "support.type.sys-types",
    mark (r"\b(?:pthread_attr_t|pthread_cond_t|pthread_condattr_t|pthread_mutex_t|" ++
      r"pthread_mutexattr_t|pthread_once_t|pthread_rwlock_t|pthread_rwlockattr_t|pthread_t|" ++
      r"pthread_key_t)\b") "support.type.pthread",
    mark (r"\b(?:u?int(?:_least|_fast)?(?:8|16|32|64)_t|u?intptr_t|u?intmax_t)\b")
      "support.type.stdint",
    mark (r"\b(?:AbsoluteTime|Boolean|Byte|ByteCount|ByteOffset|ByteCount|Duration|Fixed|Fract|" ++
      r"Handle|LangCode|OSErr|OSStatus|OSType|Ptr|Rect|ResType|Str255|Style|UInt8|UInt16|" ++
      r"UInt32|UInt64|SInt8|SInt16|SInt32|SInt64|UniChar|UniCharCount|UnsignedFixed)\b")
      "support.type.mac-classic"])]

/-- The functions of the standard library. -/
def libraryFunctions : String :=
  r"(?:_Exit|(?:nearbyint|nextafter|nexttoward|netoward|nan)[fl]?|(?:log(?:10|1p|2|b)?|" ++
    r"ldexp|lgamma|l?l?rint|l?l?round|exp2?|expm1|erfc?|(?:a?(?:sin|cos|tan)h?)|atan2|pow|sqrt|" ++
    r"cbrt|hypot|ceil|floor|trunc|round|fabs|fdim|fma|fmax|fmin|fmod|frexp|modf|remainder|" ++
    r"remquo|rint|scalbl?n|tgamma|copysign|ilogb)[fl]?|abort|abs|labs|llabs|asctime|assert|" ++
    r"atexit|atof|atoi|atol|atoll|bsearch|btowc|calloc|clearerr|clock|ctime|difftime|div|ldiv|" ++
    r"lldiv|exit|fclose|feof|ferror|fflush|fgetc|fgetpos|fgets|fgetwc|fgetws|fopen|fprintf|" ++
    r"fputc|fputs|fputwc|fputws|fread|free|freopen|fscanf|fseek|fsetpos|ftell|fwide|fwprintf|" ++
    r"fwrite|fwscanf|getc|getchar|getenv|gets|getwc|getwchar|gmtime|isalnum|isalpha|isblank|" ++
    r"iscntrl|isdigit|isgraph|islower|isprint|ispunct|isspace|isupper|isxdigit|isfinite|isinf|" ++
    r"isnan|isnormal|localeconv|localtime|longjmp|malloc|mblen|mbrlen|mbrtowc|mbsinit|" ++
    r"mbsrtowcs|mbstowcs|mbtowc|memchr|memcmp|memcpy|memmove|memset|mktime|offsetof|perror|" ++
    r"printf|putc|putchar|puts|putwc|putwchar|qsort|raise|rand|realloc|remove|rename|rewind|" ++
    r"scanf|setbuf|setjmp|setlocale|setvbuf|signal|snprintf|sprintf|srand|sscanf|strcat|strchr|" ++
    r"strcmp|strcoll|strcpy|strcspn|strerror|strftime|strlen|strncat|strncmp|strncpy|strpbrk|" ++
    r"strrchr|strspn|strstr|strtod|strtof|strtok|strtol|strtold|strtoll|strtoul|strtoull|" ++
    r"strxfrm|swprintf|swscanf|system|time|tmpfile|tmpnam|tolower|toupper|towlower|towupper|" ++
    r"ungetc|ungetwc|va_arg|va_copy|va_end|va_start|vfprintf|vfscanf|vprintf|vscanf|vsnprintf|" ++
    r"vsprintf|vsscanf|wcscat|wcschr|wcscmp|wcscpy|wcslen|wcsncpy|wcstombs|wctomb|wmemcpy|" ++
    r"wmemset|wprintf|wscanf)"

/-- The contexts of expressions. -/
def expressions : Grammar := [
  ("early expressions", context [
    use "preprocessor",
    use "comments",
    push r"\b(?:default|case)\b" "keyword.control" ["case"],
    push r"\btypedef\b" "storage.type" ["type definition"],
    push r"\b(__attribute__)\s*(\()" "" ["group"] |>.parts [(1, "storage.modifier")],
    mark ("\\b(?:" ++ control ++ ")\\b") "keyword.control",
    mark r"\bsizeof\b" "keyword.operator.word",
    use "numbers"]),
  ("late expressions", context [
    mark ("\\b(?:" ++ modifiers ++ ")\\b") "storage.modifier",
    use "operators",
    use "types",
    mark r"\b(?:struct|union|enum)\b" "storage.type",
    use "strings",
    push r"\(" "punctuation.section.group.begin" ["group"],
    push r"\[" "punctuation.section.brackets.begin" ["brackets"],
    push r"\x7b" "punctuation.section.block.begin" ["block"],
    push ("\\b" ++ libraryFunctions ++ r"\b(?=\s*\()") "support.function" ["call"],
    push (name ++ r"(?=\s*\()") "variable.function" ["call"],
    use "constants",
    mark name "",
    mark r"[\)\x7d]" "invalid.illegal.stray-bracket-end"]),
  ("expressions", context [use "early expressions", use "late expressions"]),
  ("call", context [
    set r"\(" "punctuation.section.group.begin" ["group"],
    popElse]),
  ("group", context [
    pop r"\)" "punctuation.section.group.end",
    use "expressions"]),
  ("brackets", context [
    pop r"\]" "punctuation.section.brackets.end",
    use "expressions"]),
  ("block", context [
    pop r"\x7d" "punctuation.section.block.end",
    use "statements"]),
  ("statements", context [
    use "preprocessor",
    mark (r"^\s*((?!default\b)[[:alpha:]_][[:alnum:]_]*)(:)(?!:)") ""
      |>.parts [(1, "entity.name.label"), (2, "punctuation.separator")],
    use "expressions"]),
  ("case", context [
    pop r"(?=[\);,])" "",
    pop r":" "punctuation.separator",
    use "expressions"]),
  ("type definition", context [
    pop ("(" ++ name ++ r")?\s*(?=;)") "" |>.parts [(1, "entity.name.type.typedef")],
    mark (r"\b(struct)\s+" ++ name) "" |>.parts [(1, "storage.type")],
    use "expressions"]),
  ("types", context [
    mark ("\\b(?:" ++ basicTypes ++ ")\\b") "storage.type",
    use "library types"])]

/-- The contexts of declarations. -/
def declarations : Grammar := [
  ("global", context [
    use "preprocessor",
    mark (r"^(?:\s*" ++ macroName ++ r")+\s*$") "meta.assumed-macro",
    push (r"^\s*(" ++ macroName ++ r")\s*(\()(?=[^)]*\)\s*$)") "" ["group"]
      |>.parts [(1, "variable.function.assumed-macro")],
    use "early expressions",
    push r"^\s*(?=\w)" "" ["declaration"],
    use "late expressions"]),
  ("declaration", context [
    use "comments",
    mark ("\\b(?:" ++ modifiers ++ ")\\b") "storage.modifier",
    set r"(?=\S)" "" ["declared type"]]),
  ("declared type", context [
    use "comments",
    mark r"[*&]" "keyword.operator",
    pop ("(?=\\b(?:" ++ control ++ "|sizeof)\\b)") "",
    set r"(?=\s)" "" ["function or variable"],
    set ("\\b(struct|union|enum)\\s+" ++ name ++ "(?=[\\s*]+" ++ name ++ r"\s*\()") ""
      ["function or variable"] |>.parts [(1, "storage.type")],
    set r"(?=\b(?:struct|union|enum)\b)" "" ["data structure"],
    use "types",
    set ("\\b(?:" ++ libraryFunctions ++ r")\b(?=\s*\()") "support.function" ["call"],
    set (name ++ r"(?=\s*\()") "variable.function" ["call"],
    use "constants",
    mark name "",
    pop r"(?=\W)" ""]),
  ("function or variable", context [
    use "comments",
    mark r"[*&]" "keyword.operator",
    mark ("\\b(?:" ++ modifiers ++ ")\\b") "storage.modifier",
    use "types",
    set (name ++ r"(?=\s*\()") "entity.name.function" ["function end", "parameters"],
    mark (name ++ "(?=[\\s*]+" ++ name ++ ")") "",
    popElse]),
  ("parameters", context [
    set r"\(" "punctuation.section.group.begin" ["parameter list"],
    popElse]),
  ("parameter list", context [
    pop r"\)" "punctuation.section.group.end",
    use "early expressions",
    mark ("\\b(?:" ++ modifiers ++ ")\\b") "storage.modifier",
    mark r"\.\.\." "keyword.operator.variadic",
    use "types",
    mark r"\b(?:struct|union|enum)\b" "storage.type",
    mark (name ++ r"(?=\s*(?:\[[^\]]*\]\s*)*[,)])") "variable.parameter",
    use "late expressions"]),
  ("function end", context [
    use "comments",
    set r"\x7b" "punctuation.section.block.begin" ["block"],
    pop r";" "",
    popElse]),
  ("data structure", context [
    use "comments",
    set r"\bstruct\b" "storage.type" ["structure body", "structure name"],
    set r"\bunion\b" "storage.type" ["structure body", "union name"],
    set r"\benum\b" "storage.type" ["enumeration body", "enumeration name"],
    popElse]),
  ("structure name", context [
    use "comments",
    mark r"\b__attribute__\b" "storage.modifier",
    pop (name ++ r"(?=\s*(?:\x7b|$))") "entity.name.struct",
    pop name "",
    popElse]),
  ("union name", context [
    use "comments",
    pop (name ++ r"(?=\s*(?:\x7b|$))") "entity.name.union",
    pop name "",
    popElse]),
  ("enumeration name", context [
    use "comments",
    pop (name ++ r"(?=\s*(?:\x7b|$))") "entity.name.enum",
    pop name "",
    popElse]),
  ("structure body", context [
    use "comments",
    set r"\x7b" "punctuation.section.block.begin" ["fields"],
    popElse]),
  ("fields", context [
    pop r"\x7d" "punctuation.section.block.end",
    use "expressions"]),
  ("enumeration body", context [
    use "comments",
    set r"\x7b" "punctuation.section.block.begin" ["enumerators"],
    popElse]),
  ("enumerators", context [
    pop r"\x7d" "punctuation.section.block.end",
    use "early expressions",
    mark ("^\\s*(" ++ name ++ ")(?=\\s*(?:[,=\\x7d]|$))") ""
      |>.parts [(1, "entity.name.constant")],
    use "late expressions"])]

end C

open C

/-- The grammar of C. -/
def c : Grammar :=
  [("main", context [use "global"])] ++ comments ++ literals ++ preprocessor ++ operators ++
    libraryTypes ++ expressions ++ declarations

end DocPreview.Highlight.Language

import DocPreview.Highlight.Grammar

/-!
# The grammar of Perl
-/

namespace DocPreview.Highlight.Language

open Grammar

namespace Perl

/-- The functions of the language, part one. -/
def functionsToM : String :=
  "ARGV|DATA|ENV|SIG|STDERR|STDIN|STDOUT|atan2|bind|binmode|bless|caller|chdir|chmod|chomp|chop|" ++
    "chown|chr|chroot|close|closedir|cmp|connect|cos|crypt|dbmclose|dbmopen|defined|delete|dump|" ++
    "each|endgrent|endhostent|endnetent|endprotoent|endpwent|endservent|eof|eq|eval|exec|exists|" ++
    "exp|fcntl|fileno|flock|fork|formline|ge|getc|getgrent|getgrgid|getgrnam|gethostbyaddr|" ++
    "gethostbyname|gethostent|getlogin|getnetbyaddr|getnetbyname|getnetent|getpeername|getpgrp|" ++
    "getppid|getpriority|getprotobyname|getprotobynumber|getprotoent|getpwent|getpwnam|getpwuid|" ++
    "getservbyname|getservbyport|getservent|getsockname|getsockopt|glob|gmtime|grep|gt|hex|" ++
    "import|index|int|ioctl|join|keys|kill|lc|lcfirst|le|length|link|listen|local|localtime|log|" ++
    "lstat|lt|m|map|mkdir|msgctl|msgget|msgrcv|msgsnd"

/-- The functions of the language, part two. -/
def functionsFromN : String :=
  "ne|no|oct|open|opendir|ord|pack|pipe|pop|pos|print|printf|push|q|qq|quotemeta|qw|qx|rand|" ++
    "read|readdir|readlink|recv|ref|rename|reset|reverse|rewinddir|rindex|rmdir|s|say|scalar|" ++
    "seek|seekdir|semctl|semget|semop|send|setgrent|sethostent|setnetent|setpgrp|setpriority|" ++
    "setprotoent|setpwent|setservent|setsockopt|shift|shmctl|shmget|shmread|shmwrite|shutdown|" ++
    "sin|sleep|socket|socketpair|sort|splice|split|sprintf|sqrt|srand|stat|study|substr|symlink|" ++
    "syscall|sysopen|sysread|system|syswrite|tell|telldir|tie|tied|time|times|tr|truncate|uc|" ++
    "ucfirst|umask|undef|unlink|unpack|unshift|untie|utime|values|vec|waitpid|wantarray|warn|" ++
    "write|y"

/-- The contexts of statements. -/
def statements : Grammar := [
  ("main", context [
    push r"^=" "punctuation.definition.comment" ["documentation"],
    mark r"#.*$\n?" "comment.line.number-sign",
    use "variables",
    use "quotes",
    mark r"\b(\w+)\s*(?==>)" "" |>.parts [(1, "constant.other.key")],
    mark r"(?<=\x7b)\s*\w+\s*(?=\x7d)" "constant.other.bareword",
    push r"\b__(?:END|DATA)__\n?" "string.unquoted.program-block" ["data"],
    mark r"\b__(?:FILE|LINE|PACKAGE|SUB)__\b" "constant.language",
    mark r"(?<![-\w$@%&>])\b(sub)\s+([-a-zA-Z0-9_:]+)" ""
      |>.parts [(1, "storage.type.sub"), (2, "entity.name.function")],
    mark r"^\s*(package)\s+([^\s;]+)" ""
      |>.parts [(1, "keyword.control"), (2, "entity.name.type.class")],
    mark (r"\b(?:continue|die|do|else|elsif|exit|for|foreach|goto|if|last|next|redo|return|" ++
      r"select|unless|until|wait|while|switch|case|package|require|use|eval)\b(?!\s*=>)")
      "keyword.control",
    mark r"\bsub\b" "storage.type.sub",
    mark r"(?<![-\w$@%&>])\b(?:my|our|local|state)\b" "storage.modifier",
    mark r"(?<!\w)-[rwx0RWXOezsfdlpSbctugkTBMAC]\b" "keyword.operator.filetest",
    mark r"\b(?:and|or|xor|as|not)\b" "keyword.operator.logical",
    mark r"<=>|=>|->" "keyword.operator.comparison",
    mark ("(?<![-\\w$@%&>])\\b(?:" ++ functionsToM ++ ")\\b(?!\\s*=>)") "support.function",
    mark ("(?<![-\\w$@%&>])\\b(?:" ++ functionsFromN ++ ")\\b(?!\\s*=>)") "support.function"]),
  ("data", context []),
  ("documentation", context [pop r"^=cut" ""] |>.whole "comment.block.documentation"),
  ("variables", context [
    mark r"\$(?:&|\x60|'|\+)(?![A-Za-z0-9_])" "variable.other.regexp",
    mark r"\$[_ab*./|,\\;#%=~^:?!$<>()\[\]@\x22-](?![A-Za-z0-9_])" "variable.other.predefined",
    mark r"\$\d+" "variable.other.subpattern",
    mark r"(?:\$#?|@|%)(?:[a-zA-Z$]|::)(?:\w|::)*\b" "variable.other.readwrite.global",
    mark r"(?:\$|@)\x7b[a-zA-Z_]\w*\x7d" "variable.other.readwrite.global",
    mark r"[$@%][0-9_]\b" "variable.other.readwrite.global.special"])]

/-- The contexts of texts and regular expressions. -/
def quotes : Grammar := [
  ("quotes", context [
    push r"(<< *\x22([^\x22]*)\x22).*\n?" "" ["here document"]
      |>.parts [(1, "string.unquoted.heredoc.doublequote")],
    push r"(<< *'([^']*)').*\n?" "" ["plain here document"]
      |>.parts [(1, "string.unquoted.heredoc.quote")],
    push r"(<< *((?![=\d$( ])[^;,'\x22\x60\s)]+)).*\n?" "" ["here document"]
      |>.parts [(1, "string.unquoted.heredoc")],
    push r"\b(?:qw?)\s*\((?!\s*=>)" "punctuation.definition.string.begin" ["parenthesized text"],
    push r"\b(?:qw?)\s*\x7b" "punctuation.definition.string.begin" ["braced text"],
    push r"\b(?:qw?)\s*\[" "punctuation.definition.string.begin" ["bracketed text"],
    push r"\b(?:qw?)\s*<" "punctuation.definition.string.begin" ["angled text"],
    push r"\b(?:qw?)\s*([^(\x7b\[<\w\s=,;])" "punctuation.definition.string.begin"
      ["delimited text"],
    push r"\b(?:qq|qx)\s*\(" "punctuation.definition.string.begin" ["parenthesized template"],
    push r"\b(?:qq|qx)\s*\x7b" "punctuation.definition.string.begin" ["braced template"],
    push r"\b(?:qq|qx)\s*([^(\x7b\[<\w\s=,;])" "punctuation.definition.string.begin"
      ["delimited template"],
    push r"\bm\s*\x7b" "string.regexp.find-m" ["braced match"],
    push r"\b(qr)\s*(\x7b)" "" ["braced regexp"]
      |>.parts [(1, "support.function"), (2, "string.regexp")],
    mark r"(?<!\\)(?:~\s*/)(?:\S.*?)(?<!\\)(?:\\{2})*/" "string.regexp.find",
    push r"\b(m|qr)\s*(\()" "" ["parenthesized regexp"]
      |>.parts [(1, "support.function"), (2, "string.regexp")],
    push r"\b(m|qr)\s*([^\w\s(\x7b\[<=,;])" "" ["delimited regexp"]
      |>.parts [(1, "support.function"), (2, "string.regexp")],
    push r"\b(s|tr|y)\s*(\x7b)" "" ["second part", "braced regexp"]
      |>.parts [(1, "support.function"), (2, "string.regexp")],
    mark r"\b(tr|y)\s*(([^\w\s(\x7b\[<=,;])(?:(?!\3).)*\3(?:(?!\3).)*\3)([cdsr]*)" "" |>.parts [
      (1, "support.function"), (2, "string.regexp.replace"), (4, "keyword.control.regexp-option")],
    push r"\b(s)\s*([^\w\s(\x7b\[<=,;])" "" ["new text start", "old text"]
      |>.parts [(1, "support.function"), (2, "string.regexp")],
    push r"(?<=[(\x7b&]|\bif|\bunless|\bif\s|\bunless\s|split\s)\s*(/)" "" ["regexp"]
      |>.parts [(1, "string.regexp")],
    push r"\x22" "punctuation.definition.string.begin" ["double quoted"],
    push r"'" "punctuation.definition.string.begin" ["single quoted"],
    push r"\x60" "punctuation.definition.string.begin" ["command text"]]),
  ("double quoted", context [
    pop r"\x22" "punctuation.definition.string.end",
    use "escapes",
    use "variables"] |>.whole "string.quoted.double"),
  ("single quoted", context [
    pop r"'" "punctuation.definition.string.end",
    mark r"\\['\\]" "constant.character.escape"] |>.whole "string.quoted.single"),
  ("command text", context [
    pop r"\x60" "punctuation.definition.string.end",
    use "escapes",
    use "variables"] |>.whole "string.interpolated"),
  ("parenthesized text", context [
    pop r"\)" "punctuation.definition.string.end",
    push r"\(" "" ["parenthesized text"]] |>.whole "string.quoted.other"),
  ("braced text", context [
    pop r"\x7d" "punctuation.definition.string.end",
    push r"\x7b" "" ["braced text"]] |>.whole "string.quoted.other"),
  ("bracketed text", context [pop r"\]" "punctuation.definition.string.end"]
    |>.whole "string.quoted.other"),
  ("angled text", context [pop r">" "punctuation.definition.string.end"]
    |>.whole "string.quoted.other"),
  ("delimited text", context [pop r"\1" "punctuation.definition.string.end"]
    |>.whole "string.quoted.other"),
  ("parenthesized template", context [
    pop r"\)" "punctuation.definition.string.end",
    push r"\(" "" ["parenthesized template"],
    use "escapes",
    use "variables"] |>.whole "string.quoted.other"),
  ("braced template", context [
    pop r"\x7d" "punctuation.definition.string.end",
    push r"\x7b" "" ["braced template"],
    use "escapes",
    use "variables"] |>.whole "string.quoted.other"),
  ("delimited template", context [
    pop r"\1" "punctuation.definition.string.end",
    use "escapes",
    use "variables"] |>.whole "string.quoted.other"),
  ("here document", context [
    pop r"^\2$" "string.unquoted.heredoc",
    use "escapes",
    use "variables"] |>.content "string.unquoted.heredoc"),
  ("plain here document", context [pop r"^\2$" "string.unquoted.heredoc"]
    |>.content "string.unquoted.heredoc"),
  ("escapes", context [
    mark r"\\(?:x\h{1,2}|x\x7b\h+\x7d|[0-7]{1,3}|.)" "constant.character.escape"]),
  ("regexp", context [
    pop r"(/)([acdegilmoprsux]*)" ""
      |>.parts [(1, "string.regexp"), (2, "keyword.control.regexp-option")],
    use "regexp items"] |>.content "string.regexp"),
  ("braced match", context [
    pop r"\x7d" "",
    push r"\x7b" "" ["braced regexp part"],
    use "regexp items"] |>.whole "string.regexp.find-m"),
  ("braced regexp", context [
    pop r"(\x7d)([acdegilmoprsux]*)" ""
      |>.parts [(1, "string.regexp"), (2, "keyword.control.regexp-option")],
    push r"\x7b" "" ["braced regexp part"],
    use "regexp items"] |>.content "string.regexp"),
  ("braced regexp part", context [
    pop r"\x7d" "",
    push r"\x7b" "" ["braced regexp part"],
    use "regexp items"]),
  ("parenthesized regexp", context [
    pop r"(\))([acdegilmoprsux]*)" ""
      |>.parts [(1, "string.regexp"), (2, "keyword.control.regexp-option")],
    push r"\(" "" ["parenthesized regexp part"],
    use "regexp items"] |>.content "string.regexp"),
  ("parenthesized regexp part", context [
    pop r"\)" "",
    push r"\(" "" ["parenthesized regexp part"],
    use "regexp items"]),
  ("delimited regexp", context [
    pop r"(\2)([acdegilmoprsux]*)" ""
      |>.parts [(1, "string.regexp"), (2, "keyword.control.regexp-option")],
    use "regexp items"] |>.content "string.regexp"),
  ("old text", context [
    pop r"(?=\2)" "",
    use "regexp items"] |>.content "string.regexp"),
  ("new text start", context [
    set r"(.)" "string.regexp" ["new text"],
    popNow]),
  ("new text", context [
    pop r"(\1)([acdegilmoprsux]*)" ""
      |>.parts [(1, "string.regexp"), (2, "keyword.control.regexp-option")],
    use "regexp items"] |>.content "string.regexp"),
  ("second part", context [
    set r"\x7b" "string.regexp" ["braced regexp"],
    popElse]),
  ("regexp items", context [
    mark r"\\." "constant.character.escape",
    use "variables"])]

end Perl

open Perl

/-- The grammar of Perl. -/
def perl : Grammar := statements ++ quotes

end DocPreview.Highlight.Language

import DocPreview.Highlight.Language.Data
import DocPreview.Highlight.Language.Html

/-!
# The grammar of PHP

Code stands between tags in HTML.
-/

namespace DocPreview.Highlight.Language

open Grammar

namespace Php

/-- A name. -/
def name : String := r"[a-zA-Z_\x7f-\xff][a-zA-Z0-9_\x7f-\xff]*"

/-- The constants that are defined everywhere. -/
def knownConstant : String :=
  r"\b(?:PHP_(?:EOL|OS|OS_FAMILY|VERSION|MAJOR_VERSION|MINOR_VERSION|RELEASE_VERSION|" ++
    r"VERSION_ID|EXTRA_VERSION|INT_MAX|INT_MIN|INT_SIZE|FLOAT_MAX|FLOAT_MIN|FLOAT_EPSILON|" ++
    r"FLOAT_DIG|DEBUG|SAPI|BINDIR|LIBDIR|DATADIR|EXTENSION_DIR|PREFIX|MAXPATHLEN|ZTS)|" ++
    r"E_(?:ALL|ERROR|WARNING|PARSE|NOTICE|STRICT|DEPRECATED|RECOVERABLE_ERROR|" ++
    r"CORE_(?:ERROR|WARNING)|COMPILE_(?:ERROR|WARNING)|" ++
    r"USER_(?:ERROR|WARNING|NOTICE|DEPRECATED))|DEFAULT_INCLUDE_PATH|DIRECTORY_SEPARATOR|" ++
    r"PATH_SEPARATOR|M_PI|M_E|STDIN|STDOUT|STDERR|SORT_(?:ASC|DESC|REGULAR|NUMERIC|STRING)|" ++
    r"COUNT_RECURSIVE|ENT_QUOTES|LOCK_(?:SH|EX|UN)|JSON_PRETTY_PRINT|INF|NAN)\b"

/-- The functions of the library of the language. -/
def knownFunction : String :=
  r"(?i)\b(?:" ++
    "abs|acos|addslashes|array_chunk|array_column|array_combine|" ++
    "array_count_values|array_diff|array_diff_key|array_fill|array_fill_keys|" ++
    "array_filter|array_flip|array_intersect|array_intersect_key|" ++
    "array_key_exists|array_keys|array_map|array_merge|array_merge_recursive|" ++
    "array_multisort|array_pad|array_pop|array_product|array_push|array_rand|" ++
    "array_reduce|array_replace|array_reverse|array_search|array_shift|" ++
    "array_slice|array_splice|array_sum|array_unique|array_unshift|array_values|" ++
    "array_walk|arsort|asin|asort|atan|atan2|base64_decode|base64_encode|" ++
    "basename|bin2hex|call_user_func|call_user_func_array|ceil|checkdate|chmod|" ++
    "chop|chr|chunk_split|class_exists|closedir|compact|copy|cos|count|" ++
    "crc32|current|curl_close|curl_exec|curl_init|curl_setopt|date|" ++
    "date_default_timezone_set|debug_backtrace|decbin|dechex|decoct|define|" ++
    "defined|dirname|each|end|error_log|error_reporting|exec|exp|explode|" ++
    "extract|fclose|feof|fgetcsv|fgets|file|file_exists|file_get_contents|" ++
    "file_put_contents|filemtime|filesize|filter_var|floatval|floor|flush|" ++
    "fmod|fopen|fputcsv|fputs|fread|fseek|ftell|func_get_args|func_num_args|" ++
    "function_exists|fwrite|get_class|get_object_vars|get_parent_class|getdate|" ++
    "getenv|gettype|glob|gmdate|header|hexdec|html_entity_decode|htmlentities|" ++
    "htmlspecialchars|http_build_query|idate|implode|in_array|ini_set|intdiv|" ++
    "intval|is_a|is_array|is_bool|is_callable|is_dir|is_file|is_float|is_int|" ++
    "is_null|is_numeric|is_object|is_readable|is_resource|is_string|" ++
    "is_subclass_of|is_writable|iterator_to_array|join|json_decode|json_encode|" ++
    "key|key_exists|krsort|ksort|lcfirst|levenshtein|localeconv|log|log10|" ++
    "ltrim|mail|max|mb_strlen|mb_strpos|mb_strtolower|mb_strtoupper|mb_substr|" ++
    "md5|method_exists|microtime|min|mkdir|mktime|move_uploaded_file|mt_rand|" ++
    "mt_srand|natsort|next|nl2br|number_format|ob_end_clean|ob_get_clean|" ++
    "ob_start|octdec|opendir|ord|parse_str|parse_url|passthru|phpinfo|" ++
    "phpversion|pi|pow|preg_grep|preg_last_error|preg_match|preg_match_all|" ++
    "preg_quote|preg_replace|preg_replace_callback|preg_split|prev|print_r|" ++
    "printf|property_exists|rand|random_int|range|rawurlencode|readdir|" ++
    "readfile|realpath|register_shutdown_function|rename|reset|rmdir|round|" ++
    "rsort|rtrim|scandir|serialize|session_destroy|session_start|" ++
    "set_error_handler|set_exception_handler|setcookie|settype|sha1|shell_exec|" ++
    "shuffle|sin|sleep|sort|spl_autoload_register|sprintf|sqrt|srand|sscanf|" ++
    "str_ireplace|str_pad|str_repeat|str_replace|str_split|str_word_count|" ++
    "strcasecmp|strcmp|strftime|strip_tags|stripos|stripslashes|strlen|" ++
    "strncmp|strpos|strrev|strripos|strrpos|strstr|strtok|strtolower|" ++
    "strtotime|strtoupper|strtr|strval|substr|substr_count|substr_replace|" ++
    "sys_get_temp_dir|system|tan|tempnam|time|touch|trigger_error|trim|" ++
    "uasort|ucfirst|ucwords|uksort|uniqid|unlink|unserialize|urldecode|" ++
    "urlencode|usleep|usort|utf8_decode|utf8_encode|var_dump|var_export|" ++
    "version_compare|vprintf|vsprintf|wordwrap" ++
    r")\b(?=\s*\()"

/-- The contexts of comments and literals. -/
def literals : Grammar := [
  ("comments", context [
    push r"/\*\*(?=\s*$)" "punctuation.definition.comment" ["documentation"],
    push r"/\*" "punctuation.definition.comment" ["block comment"],
    push r"//|#" "punctuation.definition.comment" ["line comment"]]),
  ("documentation", context [
    pop r"\*/" "punctuation.definition.comment",
    mark r"@[a-zA-Z][\w-]*" "keyword.other.phpdoc"] |>.whole "comment.block.documentation"),
  ("block comment", context [pop r"\*/" "punctuation.definition.comment"]
    |>.whole "comment.block"),
  ("line comment", context [pop r"\n|(?=\?>)" ""] |>.whole "comment.line.double-slash"),
  ("numbers", context [
    mark r"\b0[xX]\h+\b|\b0[bB][01]+\b|\b\d+(?:\.\d+)?(?:[eE][-+]?\d+)?\b|\.\d+(?:[eE][-+]?\d+)?\b"
      "constant.numeric"]),
  ("strings", context [
    push r"<<<\s*('(\w+)')\s*$" "" ["plain here document"]
      |>.parts [(1, "keyword.operator.heredoc")],
    push r"<<<\s*((\x22?)(SQL)\2)\s*$" "" ["here query"]
      |>.parts [(1, "keyword.operator.heredoc")],
    push r"<<<\s*((\x22?)(HTML)\2)\s*$" "" ["here page"]
      |>.parts [(1, "keyword.operator.heredoc")],
    push r"<<<\s*((\x22?)(\w+)\2)\s*$" "" ["here document"]
      |>.parts [(1, "keyword.operator.heredoc")],
    push r"\x22" "punctuation.definition.string.begin" ["double quoted"],
    push r"'" "punctuation.definition.string.begin" ["single quoted"],
    push r"\x60" "punctuation.definition.string.begin" ["command text"]]),
  ("double quoted", context [
    pop r"\x22" "punctuation.definition.string.end",
    use "interpolation"] |>.whole "string.quoted.double"),
  ("single quoted", context [
    pop r"'" "punctuation.definition.string.end",
    mark r"\\[\\']" "constant.character.escape"] |>.whole "string.quoted.single"),
  ("command text", context [
    pop r"\x60" "punctuation.definition.string.end",
    use "interpolation"] |>.whole "string.interpolated"),
  ("here document", context [
    pop r"^\s*(\3)\b" "" |>.parts [(1, "keyword.operator.heredoc")],
    use "interpolation"] |>.whole "string.unquoted.heredoc"),
  ("plain here document", context [pop r"^\s*(\2)\b" "" |>.parts [(1, "keyword.operator.heredoc")]]
    |>.whole "string.unquoted.nowdoc"),
  ("here query", context [
    pop r"^\s*(\3)\b" "" |>.parts [(1, "keyword.operator.heredoc")],
    use "sql:main"]),
  ("here page", context [
    pop r"^\s*(\3)\b" "" |>.parts [(1, "keyword.operator.heredoc")],
    use "html:main"]),
  ("interpolation", context [
    mark r"\\(?:[0-7]{1,3}|x\h{1,2}|u\x7b\h+\x7d|[nrtvef\\$\x22])" "constant.character.escape",
    mark r"\$\x7b\w+\x7d" "variable.other",
    mark ("(\\$" ++ name ++ r")\[(?:(\d+)|(" ++ name ++ ")|(\\$" ++ name ++ "))?") "" |>.parts [
      (1, "variable.other"), (2, "constant.numeric"), (3, "constant.other.index"),
      (4, "variable.other.index")],
    mark ("(\\$" ++ name ++ ")(->)(" ++ name ++ ")?") "" |>.parts [(1, "variable.other"),
      (2, "punctuation.accessor"), (3, "variable.other.property")],
    mark ("\\$" ++ name) "variable.other"])]

/-- The contexts of expressions. -/
def expressions : Grammar := [
  ("expressions", context [
    use "comments",
    use "numbers",
    use "strings",
    use "variables",
    mark (r"(?i)\b(?:break|case|continue|declare|default|die|do|else|elseif|enddeclare|" ++
      r"endfor|endforeach|endif|endswitch|endwhile|exit|finally|for|foreach|if|insteadof|" ++
      r"return|switch|throw|try|while|yield)\b") "keyword.control",
    push r"(?i)\bcatch\b" "keyword.control.exception" ["caught"],
    mark ("(?i)\\b(goto)\\s+(" ++ name ++ ")") ""
      |>.parts [(1, "keyword.control.goto"), (2, "support.other.label")],
    mark (r"(?i)\b(?:include|include_once|require|" ++
      r"require_once)\b") "keyword.control.import.include",
    mark r"(?i)\b(?:echo|empty|eval|isset|list|print|unset|array)\b" "support.function.construct",
    mark r"(?i)\b(?:true|false|null|__file__|__line__|__dir__|__function__|__class__|__method__)\b"
      "constant.language",
    push r"(?i)\bnew\b" "keyword.other.new" ["created class"],
    push r"(?i)\binstanceof\b" "keyword.operator.type" ["created class"],
    mark r"(?i)\b(?:and|or|xor|as)\b" "keyword.operator.logical",
    mark r"(?i)\bclone\b" "keyword.other.clone",
    mark r"(?i)\b(?:self|parent|static)(?=\s*::)" "variable.language",
    mark r"(?i)\b(?:(?:abstract|final)\s+)*class\b(?!\s+[a-z_\x7f-\xff])" "storage.type.class",
    push r"(?i)\b(?:(?:abstract|final)\s+)*class\b" "storage.type.class"
      ["class relations", "class name"],
    mark r"(?i)\b(?:global|static|abstract|final|private|protected|public|var)\b"
      "storage.modifier",
    mark r"(?i)\bconst\b" "storage.type",
    push ("(->|::)\\s*(" ++ name ++ r")(?=\s*\()") "" ["arguments"] |>.parts [
      (1, "punctuation.accessor"), (2, "variable.function")],
    mark ("(->)\\s*(" ++ name ++ ")") ""
      |>.parts [(1, "punctuation.accessor"), (2, "variable.other.member")],
    mark ("(::)\\s*(" ++ name ++ ")") ""
      |>.parts [(1, "punctuation.accessor"), (2, "constant.other.class")],
    mark ("(" ++ name ++ r")(?=\s*::)") "support.class",
    push r"(?i)\bfunction\b" "storage.type.function"
      ["function end", "parameters", "function name"],
    push r"(?i)^\s*(trait)\b" "" ["class relations", "class name"]
      |>.parts [(1, "storage.type.trait")],
    push r"(?i)^\s*(interface)\b" "" ["class relations", "class name"]
      |>.parts [(1, "storage.type.interface")],
    push r"(?i)\bnamespace\b" "keyword.other.namespace" ["namespace"],
    push r"(?i)\buse\b" "keyword.other.use" ["used names"],
    mark (r"(?i)\b(?:int|integer|bool|boolean|float|double|string|object|array|binary|" ++
      r"callable)\b(?=\s*\))")
      "storage.type",
    push knownFunction "support.function" ["arguments"],
    push ("\\b" ++ name ++ r"(?=\s*\()") "variable.function" ["arguments"],
    mark knownConstant "support.constant.core",
    mark name "constant.other",
    use "operators",
    push r"\(" "punctuation.section.group.begin" ["group"],
    push r"\[" "punctuation.section.array.begin" ["brackets"],
    push r"\x7b" "punctuation.section.block.begin" ["block"]]),
  ("variables", context [
    mark r"\$this\b" "variable.language",
    mark (r"\$(?:_(?:GET|POST|COOKIE|REQUEST|SERVER|SESSION|FILES|ENV)|GLOBALS|argc|argv)\b")
      "variable.other.global",
    mark ("\\$+" ++ name) "variable.other"]),
  ("operators", context [
    mark r"=>" "keyword.operator.key",
    mark r"\.=?" "keyword.operator.string",
    mark r"\?\?" "keyword.operator.null-coalescing",
    mark r"===?|!==?|<=>|<>|<=|>=|<(?![?])|>" "keyword.operator.comparison",
    mark r"&&|\|\||!" "keyword.operator.logical",
    mark r"\+\+|--" "keyword.operator.increment-decrement",
    mark r"<<=|>>=|\*\*=|[-+*/%&|^]=|=" "keyword.operator.assignment",
    mark r"\*\*|[-+*/%&|^~@]" "keyword.operator"]),
  ("arguments", context [
    set r"\(" "punctuation.section.group.begin" ["group"],
    popElse]),
  ("group", context [
    pop r"\)" "punctuation.section.group.end",
    use "expressions"]),
  ("brackets", context [
    pop r"\]" "punctuation.section.array.end",
    use "expressions"]),
  ("block", context [
    pop r"\x7d" "punctuation.section.block.end",
    use "expressions"]),
  ("caught", context [
    set r"\(" "punctuation.section.group.begin" ["caught classes"],
    popElse]),
  ("caught classes", context [
    pop r"\)" "punctuation.section.group.end",
    use "namespace part",
    mark name "support.class.exception",
    mark r"\\|\|" "",
    use "expressions"]),
  ("created class", context [
    pop r"(?i)(?=\bclass\b|\$)" "",
    mark r"\\" "punctuation.separator.namespace",
    mark name "support.class",
    popElse])]

/-- The contexts of functions and classes. -/
def declarations : Grammar := [
  ("function name", context [
    mark r"&" "storage.modifier.reference",
    pop (r"(?i)\b__(?:call|callStatic|clone|construct|debugInfo|destruct|get|invoke|isset|set|" ++
      r"set_state|sleep|toString|unset|wakeup)\b") "support.function.magic",
    pop name "entity.name.function",
    popElse]),
  ("parameters", context [
    set r"\(" "punctuation.section.group.begin" ["parameter list"],
    popElse]),
  ("parameter list", context [
    pop r"\)" "punctuation.section.group.end",
    mark r"\.\.\." "",
    mark r"&" "storage.modifier.reference",
    mark ("\\$" ++ name) "variable.parameter",
    push r"=" "keyword.operator.assignment" ["default value"],
    mark r"(?i)\b(?:array|callable|int|string|bool|float|iterable|object|self|mixed)\b"
      "storage.type",
    use "comments",
    mark r"\\" "punctuation.separator.namespace",
    mark name "support.class"]),
  ("default value", context [
    pop r"(?=[,)])" "",
    use "expressions"]),
  ("function end", context [
    set r"\x7b" "punctuation.section.block.begin" ["block"],
    push r"(?i)\buse\b" "keyword.other.function.use" ["parameters"],
    push r":" "punctuation.colon" ["return type"],
    use "comments",
    popElse]),
  ("return type", context [
    mark r"\?" "storage.type.nullable",
    mark r"(?i)\b(?:array|callable|int|string|bool|float|iterable|object|void)\b"
      "storage.type",
    mark r"\\" "punctuation.separator.namespace",
    mark name "support.class",
    popElse]),
  ("class name", context [
    pop name "entity.name.class",
    popElse]),
  ("class relations", context [
    use "comments",
    mark r"(?i)\b(?:extends)\b" "storage.modifier.extends",
    mark r"(?i)\b(?:implements)\b" "storage.modifier.implements",
    mark r"," "",
    use "namespace part",
    mark (r"\\?" ++ name) "entity.other.inherited-class",
    set r"\x7b" "punctuation.section.block.begin" ["class body"],
    popElse]),
  ("class body", context [
    pop r"\x7d" "punctuation.section.block.end",
    push r"(?i)\buse\b" "keyword.other.use" ["used traits"],
    mark r"(?i)\b(?:static|abstract|final|private|protected|public|var)\b" "storage.modifier",
    mark r"(?i)\?(?=[\w\\]+\s+\$)" "",
    mark r"(?i)\b(?:array|callable|int|string|bool|float|iterable|object|mixed)\b(?=\s+\$)"
      "storage.type",
    mark (name ++ r"(?=\s+\$)") "support.class",
    use "expressions"]),
  ("used traits", context [
    mark r"," "",
    use "namespace part",
    mark (r"\\?" ++ name) "entity.other.inherited-class",
    popElse]),
  ("namespace part", context [
    mark (r"\\?(" ++ name ++ r")(?=\s*\\)") "" |>.parts [(1, "support.other.namespace")]]),
  ("namespace", context [
    use "namespace part",
    mark (r"\\?" ++ name) "entity.name.namespace",
    popElse]),
  ("used names", context [
    mark ("(?i)\\b(as)\\s+(" ++ name ++ ")") ""
      |>.parts [(1, "keyword.other.use-as"), (2, "entity.name.class")],
    set r"(?i)\bfunction\b" "storage.type.function" ["used functions"],
    mark r"(?i)\bconst\b" "storage.type.const",
    use "namespace part",
    mark r"[\\,]" "",
    push r"\x7b" "" ["used group"],
    mark name "support.class",
    popElse]),
  ("used group", context [
    pop r"\x7d" "",
    use "used names"]),
  ("used functions", context [
    mark ("(?i)\\b(as)\\s+(" ++ name ++ ")") ""
      |>.parts [(1, "keyword.other.use-as"), (2, "entity.name.function")],
    use "namespace part",
    mark r"[\\,]" "",
    mark name "support.function",
    popElse])]

end Php

open Php

/-- The grammar of PHP. -/
def php : Grammar :=
  [("main", context [push "" "" ["html:main"] |>.over "code tags"]),
   ("code tags", context [
    push r"<\?(?i:php\b|=)?" "punctuation.section.embedded.begin" ["code"]]),
   ("code", context [
    pop r"\?>" "punctuation.section.embedded.end",
    use "expressions"])] ++ literals ++ expressions ++ declarations ++ sql.embedded "sql" ++
    html.embedded "html"

end DocPreview.Highlight.Language

import DocPreview.Highlight.Grammar

/-!
# The grammars of Lisp and Clojure

In Clojure only lists are read at the outermost level. What a list is about is said by its first
word, and some first words bind names in a vector that follows.
-/

namespace DocPreview.Highlight.Language

open Grammar

namespace Lisp

/-- The functions of the language. -/
def functions : String :=
  r"acons|adjoin|append|apply|apropos|aref|array-dimension|array-rank|assoc|" ++
    r"atom|boundp|butlast|c[ad]{1,4}r|catch|ceiling|char|char-code|char-" ++
    r"downcase|char-upcase|characterp|close|code-char|coerce|concatenate|cons|" ++
    r"consp|constantly|copy-list|copy-seq|copy-tree|count|count-if|decf|declaim|" ++
    r"declare|defclass|defconstant|defgeneric|define-condition|defpackage|" ++
    r"defparameter|defsetf|defstruct|deftype|defvar|delete|delete-duplicates|" ++
    r"delete-if|describe|destructuring-bind|elt|endp|equal|equalp|error|eval|" ++
    r"evenp|every|expt|fboundp|fill|find|find-if|finish-output|first|flet|" ++
    r"floor|format|fourth|fmakunbound|fresh-line|funcall|function|functionp|" ++
    r"gensym|get|getf|gethash|handler-bind|handler-case|identity|in-package|" ++
    r"incf|integerp|intern|intersection|labels|lambda|last|ldb|length|list|" ++
    r"list-length|listp|load|logand|logior|logxor|macroexpand|macroexpand-1|" ++
    r"macrolet|make-array|make-hash-table|make-instance|make-list|make-string|map|" ++
    r"mapc|mapcan|mapcar|mapcon|maphash|mapl|maplist|max|member|memberp|merge|" ++
    r"min|minusp|mismatch|mod|multiple-value-bind|nconc|nreverse|nsubstitute|" ++
    r"nth|nthcdr|nunion|numberp|oddp|open|pairlis|plusp|pop|position|princ|" ++
    r"prin1|print|proclaim|prog|prog1|prog2|progn|provide|psetf|psetq|push|" ++
    r"pushnew|quote|random|rassoc|read|read-line|reduce|rem|remhash|remove|" ++
    r"remove-if|remove-if-not|replace|require|rest|return|return-from|reverse|" ++
    r"rotatef|round|rplaca|rplacd|search|second|set|set-difference|setf|setq|" ++
    r"shiftf|signal|slot-value|some|sort|sqrt|step|string|string-downcase|" ++
    r"string-upcase|stringp|sublis|subseq|subsetp|subst|substitute|svref|symbol-" ++
    r"function|symbol-name|symbol-value|symbolp|tagbody|terpri|third|throw|time|" ++
    r"trace|tree-equal|truncate|type-of|typep|union|unwind-protect|use-package|" ++
    r"values|vector|vector-push|vectorp|warn|with-open-file|with-slots|write|" ++
    r"write-line|write-string|y-or-n-p|zerop"

end Lisp

/-- The grammar of Lisp. -/
def lisp : Grammar := [
  ("main", context [
    mark r";.*$\n?" "comment.line.semicolon",
    push r"#\|" "punctuation.definition.comment" ["block comment"],
    mark r"\b((?i:defun|defmethod|defmacro))\b\s+([\w!?*+<>=/-]*)" ""
      |>.parts [(1, "storage.type.function-type"), (2, "entity.name.function")],
    mark r"#\\(?:\w+|\S)|#'[^\s()]+|#[xXbBoO]\h+" "constant.character",
    mark r"#[a-zA-Z]" "",
    mark r"\*[^\s()*]+\*" "variable.other.global",
    mark r"\b(?i:case|cond|d|do|dolist|dotimes|else|for|if|let|loop|unless|when|while)\b"
      "keyword.control",
    mark r"\b(?i:eq|eql|neq|and|or|not)\b" "keyword.operator",
    mark r"\b(?i:null|nil|t)\b" "constant.language",
    mark ("(?<![-\\w])(?i:" ++ Lisp.functions ++ ")(?![-\\w])") "support.function",
    mark r"(?<![^\s(])(?:\d+\.?\d*|\.\d+)(?:[eE][-+]?\d+)?(?![^\s)])" "constant.numeric",
    mark r"(?<=[\s(]|\blet|\bdo)(?:[<>/]=|[-+*/<>=])(?=[\s)])" "keyword.operator",
    push r"\x22" "punctuation.definition.string.begin" ["text"]]),
  ("block comment", context [pop r"\|#" "punctuation.definition.comment"]
    |>.whole "comment.block"),
  ("text", context [
    pop r"\x22" "punctuation.definition.string.end",
    mark r"\\." "constant.character.escape"] |>.whole "string.quoted.double")]

namespace Clojure

/-- The functions of the language. -/
def functions : String :=
  r"agent|alter|apply|assoc|assoc-in|atom|binding|boolean|bound-fn|butlast|" ++
    r"comment|comp|compare|complement|concat|conj|cons|constantly|contains\?|" ++
    r"count|cycle|dec|dedupe|deref|disj|dissoc|distinct|doall|dorun|drop|" ++
    r"drop-last|drop-while|empty|empty\?|ensure|eval|even\?|every\?|false\?|" ++
    r"ffirst|filter|filterv|find|first|flatten|fn\?|force|format|frequencies|" ++
    r"future|gensym|get|get-in|group-by|hash-map|hash-set|identical\?|identity|" ++
    r"inc|instance\?|int|into|into-array|iterate|juxt|keep|key|keys|keyword|" ++
    r"keyword\?|last|lazy-seq|line-seq|list|list\*|list\?|macroexpand|make-" ++
    r"array|map|map-indexed|map\?|mapcat|mapv|max|memoize|merge|meta|min|mod|" ++
    r"name|namespace|neg\?|next|nil\?|not-empty|not-any\?|nth|nthrest|number\?|" ++
    r"odd\?|or|partial|partition|partition-all|partition-by|peek|pmap|pop|" ++
    r"pos\?|pr|pr-str|print|println|printf|prn|promise|quot|rand|rand-int|" ++
    r"rand-nth|range|re-find|re-matches|re-seq|read|read-line|reduce|reductions|" ++
    r"ref|rem|remove|repeat|repeatedly|replace|reset!|rest|reverse|second|" ++
    r"select-keys|send|seq|seq\?|sequence|set|set\?|shuffle|slurp|some|sort|" ++
    r"sort-by|spit|split-at|split-with|str|string\?|subs|subvec|swap!|symbol|" ++
    r"symbol\?|take|take-last|take-nth|take-while|tree-seq|true\?|type|update|" ++
    r"update-in|val|vals|vary-meta|vec|vector|vector\?|with-meta|zero\?|zipmap"

/-- What ends a name. -/
def nameEnd : String := r"(?![\w*+!?$%&=<>|.'/-])"

/-- A name. -/
def name : String := r"[a-zA-Z*!?$&=<>|_+-][\w*+!?$%&=<>|'-]*"

/-- The contexts of lists. -/
def lists : Grammar := [
  ("list", context [
    set ("ns" ++ nameEnd) "support.function" ["list rest", "namespace name"],
    set ("(?:defn-?|defmacro|definline)" ++ nameEnd) "storage.type.function"
      ["list rest", "parameters", "attributes", "documentation", "function name"],
    set ("(?:let|letfn|if-let|when-let|if-some|when-some|doseq|dotimes|for|loop|binding|" ++
      "with-open|with-local-vars|with-redefs)" ++ nameEnd) "keyword.control"
      ["list rest", "bindings"],
    set ("catch" ++ nameEnd) "keyword.control" ["list rest", "caught name", "caught class"],
    set ("(?:def|defonce|declare|defmulti|defmethod|defprotocol|defrecord|deftype|defstruct)" ++
      nameEnd) "storage.type" ["list rest"],
    set ("(?:if|if-not|when|when-not|when-first|cond|condp|cond->>?|case|do|fn|quote|var|" ++
      "recur|throw|try|finally|new|set!|while|import|require|use|doto|assert|extend|" ++
      "extend-type|extend-protocol|reify|proxy|monitor-enter|monitor-exit|with-out-str|" ++
      "time|delay|dosync|sync|memfn|locking|in-ns|load|refer)" ++ nameEnd) "keyword.control"
      ["list rest"],
    set ("(?:" ++ functions ++ ")" ++ nameEnd) "keyword.other" ["list rest"],
    set ("(?:some->>?|as->|->>?|not=|==|<=|>=|[-+*/<>=]|and|or|not)" ++ nameEnd) "keyword.operator"
      ["list rest"],
    set r"[a-zA-Z_][\w.$]*\.(?=[\s)])" "keyword.other.new" ["list rest"],
    set r":(?:require|import|use|refer-clojure|gen-class|require-macros|use-macros)\b"
      "support.type.directive" ["list rest"],
    set r"\.[\w-]+" "" ["list rest"],
    set r"(?=[\s\S])" "" ["list rest"]]),
  ("list rest", context [
    pop r"\)" "punctuation.section.parens.end",
    use "forms"]),
  ("namespace name", context [
    mark r"\." "keyword.operator",
    mark name "entity.name.namespace",
    popElse]),
  ("function name", context [
    mark r"(\^)(?:(::?)([\w-]+)|[\w.-]+)" "" |>.parts [
      (1, "constant.other.metadata"), (2, "keyword.operator"), (3, "constant.other.keyword")],
    pop name "entity.name.function",
    popElse]),
  ("documentation", context [
    set r"\x22" "punctuation.definition.string.begin" ["text"],
    popElse]),
  ("attributes", context [
    set r"\x7b" "comment.block.metadata" ["attribute map"],
    popElse]),
  ("attribute map", context [
    pop r"\x7d" "comment.block.metadata",
    mark r":[\w-]+" "support.type.attribute",
    use "forms"]),
  ("parameters", context [
    set r"\[" "punctuation.section.brackets.begin" ["parameter vector"],
    popElse]),
  ("parameter vector", context [
    pop r"\]" "punctuation.section.brackets.end",
    use "parameter items"]),
  ("parameter map", context [
    pop r"\x7d" "punctuation.section.braces.end",
    use "parameter items"]),
  ("parameter items", context [
    push r"\[" "punctuation.section.brackets.begin" ["parameter vector"],
    push r"\x7b" "punctuation.section.braces.begin" ["parameter map"],
    mark ("&" ++ nameEnd) "keyword.operator",
    mark r":(?:keys|strs|syms|or|as)\b" "keyword.operator",
    mark name "variable.parameter",
    use "forms"]),
  ("caught class", context [pop r"[A-Za-z_][\w.$]*" "entity.name.class", popElse]),
  ("caught name", context [pop ("\\s+" ++ name) "variable.parameter", popElse]),
  ("bindings", context [
    set r"\[" "punctuation.section.brackets.begin" ["binding pairs"],
    popElse]),
  ("binding pairs", context [
    pop r"\]" "punctuation.section.brackets.end",
    use "comments",
    push r"\[" "punctuation.section.brackets.begin" ["value", "parameter vector"],
    push r"\x7b" "punctuation.section.braces.begin" ["value", "parameter map"],
    push r"(:[\w-]+)\s*" "" ["value"] |>.parts [(1, "keyword.operator")],
    push ("(" ++ name ++ ")\\s*") "" ["value"] |>.parts [(1, "variable.parameter")]]),
  ("value", context [
    pop r"(?=[\])\x7d])" "",
    use "comments",
    set r"#\x22" "string.regexp" ["regexp"],
    set r"\x22" "punctuation.definition.string.begin" ["text"],
    set r"(#)(\()" "" ["list"] |>.parts [(1, "keyword.other.macro")],
    set r"\(" "punctuation.section.parens.begin" ["list"],
    set r"#?\x7b" "punctuation.section.braces.begin" ["braces"],
    set r"\[" "punctuation.section.brackets.begin" ["brackets"],
    use "signs",
    pop r"(?<=[\w*+!?$%&=<>|'.-])(?=\s)" "",
    use "atoms"]),
  ("brackets", context [
    pop r"\]" "punctuation.section.brackets.end",
    use "forms"]),
  ("braces", context [
    pop r"\x7d" "punctuation.section.braces.end",
    use "forms"])]

/-- The contexts of what lists hold. -/
def forms : Grammar := [
  ("comments", context [mark r";.*$\n?" "comment.line.semicolon"]),
  ("forms", context [
    use "comments",
    push r"#\x22" "string.regexp" ["regexp"],
    push r"\x22" "punctuation.definition.string.begin" ["text"],
    push r"(#)(\()" "" ["list"] |>.parts [(1, "keyword.other.macro")],
    push r"\(" "punctuation.section.parens.begin" ["list"],
    use "signs",
    use "atoms"]),
  ("signs", context [
    mark r"#'|~@|[@~\x60]" "keyword.other.macro",
    mark r"['^]" "constant.other.sign"]),
  ("atoms", context [
    mark r"\\(?:newline|tab|space|backspace|formfeed|return|u\h{4}|o[0-7]{1,3}|\S)"
      "constant.character.escape",
    mark r":(?:as|private|const|doc|arglists|tag|inline|added|static)\b(?![\w-])"
      "support.type.keyword",
    mark r"(::?)([\w.*+!?$%&=<>|/'-]+)" ""
      |>.parts [(1, "keyword.operator"), (2, "constant.other.keyword")],
    mark ("(?:nil|true|false)" ++ nameEnd) "constant.language",
    mark r"%(?:\d+|&)?" "variable.parameter",
    mark r"(?<![\w*+!?$%&=<>|-])(0[xX])(\h+N?)" ""
      |>.parts [(1, "keyword.operator"), (2, "constant.numeric.hexadecimal")],
    mark r"(?<![a-zA-Z*+!?$%&=<>|_-])\d+[MN]?" "constant.numeric",
    mark r"(?<=\w)\.(?=\w)|(?<=\d)/(?=\d)" "keyword.operator",
    mark name ""]),
  ("text", context [
    pop r"\x22" "punctuation.definition.string.end",
    mark r"\\." "constant.character.escape"] |>.whole "string.quoted.double"),
  ("regexp", context [
    pop r"\x22" "string.regexp",
    mark r"\\[dDsSwWbB]" "keyword.control.character-class",
    mark r"\\." "constant.character.escape",
    mark r"[*+?]" "keyword.operator.quantifier"] |>.content "string.regexp")]

end Clojure

open Clojure

/-- The grammar of Clojure. -/
def clojure : Grammar :=
  [("main", context [
    use "comments",
    push r"\(" "punctuation.section.parens.begin" ["list"]])] ++ lists ++ Clojure.forms

end DocPreview.Highlight.Language

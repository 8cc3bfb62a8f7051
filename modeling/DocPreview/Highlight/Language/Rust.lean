import DocPreview.Highlight.Grammar

/-!
# The grammar of Rust

Definitions have contexts of their own, since names of types are read in another way than values.
The strings of macros that format hold placeholders.
-/

namespace DocPreview.Highlight.Language

open Grammar

namespace Rust

/-- A name. -/
def name : String := r"(?:[[:alpha:]][_[:alnum:]]*|_[_[:alnum:]]+)"

/-- A lifetime. -/
def lifetime : String := "'" ++ name ++ "(?!')"

/-- The types that belong to the language. -/
def primitives : String :=
  r"\b(?:Self|i8|i16|i32|i64|i128|isize|u8|u16|u32|u64|u128|usize|f32|f64|bool|char|str)\b"

/-- The types and values that every program knows. -/
def known : String :=
  r"\b(?:Copy|Send|Sized|Sync|Drop|Fn|FnMut|FnOnce|Box|ToOwned|Clone|PartialEq|PartialOrd|Eq|" ++
    r"Ord|AsRef|AsMut|Into|From|Default|Iterator|Extend|IntoIterator|DoubleEndedIterator|" ++
    r"ExactSizeIterator|Option|Some|None|Result|Ok|Err|SliceConcatExt|String|ToString|Vec)\b"

/-- The contexts of literals. -/
def literals : Grammar := [
  ("strings", context [
    push r"(b?)(\x22)" "" ["string"]
      |>.parts [(1, "storage.type.string"), (2, "string.quoted.double")],
    push r"(b?r)(#*\x22)" "" ["raw string mark"]
      |>.parts [(1, "storage.type.string"), (2, "string.quoted.double.raw")],
    push r"(b?)(')(?=\\|[^'\\\n]')" "" ["character"]
      |>.parts [(1, "storage.type.string"), (2, "string.quoted.single")]]),
  ("string", context [
    pop r"\x22" "string.quoted.double",
    use "escapes"] |>.content "string.quoted.double" |>.bare),
  ("character", context [
    pop r"'" "string.quoted.single",
    use "escapes"] |>.content "string.quoted.single" |>.bare),
  ("escapes", context [
    mark r"\\(?:x\h{2}|n|r|t|0|\x22|'|\\|u\x7b\h{1,6}\x7d)" "constant.character.escape"]),
  ("numbers", context [
    mark (r"\b(\d[\d_]*\.(?!\.)(?:\d[\d_]*)?(?:[eE][+-]?[\d_]*\d[\d_]*)?)(f32|" ++
      r"f64)?(?![_[:alpha:].])") ""
      |>.parts [(1, "constant.numeric.float"), (2, "storage.type.numeric")],
    mark r"\b(\d[\d_]*[eE][+-]?[\d_]*\d[\d_]*)(f32|f64)?\b" ""
      |>.parts [(1, "constant.numeric.float"), (2, "storage.type.numeric")],
    mark r"\b(\d[\d_]*)(f32|f64)\b" ""
      |>.parts [(1, "constant.numeric.float"), (2, "storage.type.numeric")],
    mark r"\b(\d[\d_]*)([iu](?:8|16|32|64|128|size))?\b" ""
      |>.parts [(1, "constant.numeric.integer.decimal"), (2, "storage.type.numeric")],
    mark r"\b(0x[\h_]+?)([iu](?:8|16|32|64|128|size))?\b" ""
      |>.parts [(1, "constant.numeric.integer.hexadecimal"), (2, "storage.type.numeric")],
    mark r"\b(0o[0-7_]+)([iu](?:8|16|32|64|128|size))?\b" ""
      |>.parts [(1, "constant.numeric.integer.octal"), (2, "storage.type.numeric")],
    mark r"\b(0b[01_]+)([iu](?:8|16|32|64|128|size))?\b" ""
      |>.parts [(1, "constant.numeric.integer.binary"), (2, "storage.type.numeric")]])]

/-- The contexts of raw strings, which end with as many number signs as they start with. -/
def rawStrings : Grammar := [
  ("raw string mark", context [
    set r"(?<=r\x22)" "" ["raw string 0"],
    set r"(?<=r#\x22)" "" ["raw string 1"],
    set r"(?<=r##\x22)" "" ["raw string 2"],
    set r"(?<=r###\x22)" "" ["raw string 3"],
    popNow]),
  ("raw string 0", context [pop r"\x22" ""] |>.whole "string.quoted.double.raw" |>.bare),
  ("raw string 1", context [pop r"\x22#" ""] |>.whole "string.quoted.double.raw" |>.bare),
  ("raw string 2", context [pop r"\x22##" ""] |>.whole "string.quoted.double.raw" |>.bare),
  ("raw string 3", context [pop r"\x22###" ""] |>.whole "string.quoted.double.raw" |>.bare)]

/-- The contexts of comments and attributes. -/
def trivia : Grammar := [
  ("comments", context [
    push r"/\*" "punctuation.definition.comment" ["block comment"],
    mark r"//.*$\n?" "comment.line.double-slash"]),
  ("block comment", context [
    pop r"\*/" "",
    push r"/\*" "" ["block comment"]] |>.whole "comment.block"),
  ("attributes", context [push r"#!?\[" "" ["attribute"]]),
  ("attribute", context [
    pop r"\]" "",
    push r"\(" "" ["attribute arguments"],
    use "strings",
    use "numbers",
    mark r"=" "keyword.operator",
    mark name "variable.annotation"] |>.whole "meta.annotation"),
  ("attribute arguments", context [
    pop r"\)" "",
    push r"\(" "" ["attribute arguments"],
    use "strings",
    use "numbers",
    mark r"=" "keyword.operator"])]

/-- The contexts of types. -/
def types : Grammar := [
  ("types", context [
    use "comments",
    mark lifetime "storage.modifier.lifetime",
    mark (name ++ r"(?=<)") "meta.generic",
    mark primitives "storage.type",
    mark r"\b_\b" "keyword.operator",
    mark r"\bmut\b" "storage.modifier",
    mark r"\b(?:fn|impl)\b" "storage.type",
    mark r"->" "punctuation.separator",
    mark r"[&+]" "keyword.operator",
    push r"<" "punctuation.definition.generic.begin" ["angles"],
    push r"\(" "punctuation.section.group.begin" ["type group"],
    push r"\[" "punctuation.section.group.begin" ["type array"],
    use "strings",
    use "numbers",
    mark name ""]),
  ("angles", context [
    pop r">" "punctuation.definition.generic.end",
    mark r"->" "punctuation.separator",
    use "types"]),
  ("type group", context [
    pop r"\)" "punctuation.section.group.end",
    use "types"]),
  ("type array", context [
    pop r"\]" "punctuation.section.group.end",
    use "types"]),
  ("bounds of types", context [
    pop r"(?=\x7b)" "",
    mark r"\bfn\b" "",
    use "types"])]

/-- The contexts of definitions. -/
def definitions : Grammar := [
  ("definitions", context [
    push (r"\b(mod)\s+(" ++ name ++ ")") "" ["after module"]
      |>.parts [(1, "storage.type.module"), (2, "entity.name.module")],
    push (r"\b(struct|union)\s+(" ++ name ++ ")") "" ["structure"]
      |>.parts [(1, "storage.type.struct"), (2, "entity.name.struct")],
    push (r"\b(enum)\s+(" ++ name ++ ")") "" ["enumeration"]
      |>.parts [(1, "storage.type.enum"), (2, "entity.name.enum")],
    push (r"\b(type)\s+(" ++ name ++ ")") "" ["type alias"]
      |>.parts [(1, "storage.type.type"), (2, "entity.name.type")],
    push (r"\b(trait)\s+(" ++ name ++ ")") "" ["trait"]
      |>.parts [(1, "storage.type.trait"), (2, "entity.name.trait")],
    push r"\bimpl\b" "storage.type.impl" ["implementation", "parameters of types"],
    push (r"\b(fn)\s+(" ++ name ++ ")") "" ["after function", "function parameters",
      "parameters of types"] |>.parts [(1, "storage.type.function"), (2, "entity.name.function")],
    push r"\buse\b" "keyword.other" ["imports"],
    push (r"\b(macro_rules!)\s+(" ++ name ++ ")") "" ["macro definition"]
      |>.parts [(1, "support.function"), (2, "entity.name.macro")],
    mark r"\b(extern)\s+(crate)\b" ""
      |>.parts [(1, "keyword.other"), (2, "keyword.other")]]),
  ("after module", context [
    set r"\x7b" "punctuation.section.block.begin" ["block"],
    pop r";" "punctuation.terminator",
    popElse]),
  ("structure", context [
    use "comments",
    set r"\x7b" "punctuation.section.block.begin" ["members"],
    pop r";" "punctuation.terminator",
    push r"<" "punctuation.definition.generic.begin" ["angles"],
    push r"\(" "punctuation.section.group.begin" ["tuple members"]]),
  ("members", context [
    pop r"\x7d" "punctuation.section.block.end",
    use "attributes",
    use "visibility",
    mark (name ++ r"(?=\s*:)") "variable.other.member",
    use "types"]),
  ("enumeration", context [
    use "comments",
    set r"\x7b" "punctuation.section.block.begin" ["variants"],
    pop r";" "punctuation.terminator",
    push r"<" "punctuation.definition.generic.begin" ["angles"]]),
  ("variants", context [
    pop r"\x7d" "punctuation.section.block.end",
    push r"\x7b" "punctuation.section.block.begin" ["variants"],
    use "attributes",
    use "types",
    mark r"=" "keyword.operator"]),
  ("tuple members", context [
    pop r"\)" "punctuation.section.group.end",
    use "attributes",
    use "visibility",
    use "types"]),
  ("type alias", context [
    pop r";" "punctuation.terminator",
    mark r"=" "keyword.operator",
    use "types"]),
  ("trait", context [
    set r"\x7b" "punctuation.section.block.begin" ["block"],
    pop r";" "punctuation.terminator",
    push r"\bwhere\b" "keyword.other" ["bounds of types"],
    use "types"]),
  ("parameters of types", context [
    set r"<" "punctuation.definition.generic.begin" ["angles"],
    popElse]),
  ("implementation", context [
    set r"\x7b" "punctuation.section.block.begin" ["block"],
    pop r";" "punctuation.terminator",
    mark r"\bfor\b" "keyword.other",
    push r"\bwhere\b" "keyword.other" ["bounds of types"],
    mark (r"\$" ++ name) "variable.other",
    push r"<" "punctuation.definition.generic.begin" ["angles"],
    use "comments",
    mark r"[&!]" "keyword.operator",
    mark lifetime "storage.modifier.lifetime",
    mark r"\bmut\b" "storage.modifier",
    mark (name ++ r"(?=\s*::)") "",
    mark (name ++ r"(?=.*\bfor\b)") "",
    mark primitives "storage.type",
    mark name "entity.name.impl"]),
  ("function parameters", context [
    set r"\(" "punctuation.section.parameters.begin" ["parameters"],
    popElse]),
  ("parameters", context [
    pop r"\)" "punctuation.section.parameters.end",
    use "comments",
    use "attributes",
    mark r"&" "keyword.operator",
    mark lifetime "storage.modifier.lifetime",
    mark r"\b(?:mut|ref)\b" "storage.modifier",
    push r":" "punctuation.separator" ["parameter type"],
    push r"\(" "punctuation.section.group.begin" ["parameters"],
    mark r"\b_\b" "variable.parameter",
    mark name "variable.parameter"]),
  ("parameter type", context [
    pop r"(?=[,)|])" "",
    use "types"]),
  ("after function", context [
    set r"\x7b" "punctuation.section.block.begin" ["block"],
    pop r";" "punctuation.terminator",
    pop r"(?=\x7d)" "",
    push r"\bwhere\b" "keyword.other" ["bounds of types"],
    use "types"]),
  ("imports", context [
    pop r";" "punctuation.terminator",
    pop r"(?=\bfn\b|\bpub\b|\buse\b)" "",
    use "comments",
    mark r"\*" "keyword.operator",
    mark r"\bas\b" "keyword.operator",
    mark r"\b(?:self|super)\b" "variable.language",
    mark r"\bcrate\b" "keyword.other",
    mark name ""]),
  ("macro definition", context [
    set r"[\x7b(]" "punctuation.section.block.begin" ["macro arms"],
    popElse]),
  ("macro arms", context [
    pop r"[\x7d)](?!\s*=>)" "punctuation.section.block.end",
    use "comments",
    mark r"=>" "keyword.operator",
    push r"[(\[](?=.*(?:=>|$))" "punctuation.section.group.begin" ["macro pattern"],
    push r"\x7b" "punctuation.section.block.begin" ["block"]]),
  ("macro pattern", context [
    pop r"[)\]]" "punctuation.section.group.end",
    push r"(\$)\s*\(" "punctuation.section.group.begin" ["macro repetition"]
      |>.parts [(1, "keyword.operator")],
    push r"[(\[]" "punctuation.section.group.begin" ["macro pattern"],
    mark (r"(\$" ++ name ++ r"|\$crate)(?:(:)(ident|block|stmt|expr|pat|ty|path|tt|item|meta|" ++
      r"lifetime|literal|vis))?") "" |>.parts [(1, "variable.parameter"), (3, "storage.type")],
    mark r"=>|[*+?]" "keyword.operator",
    mark r"@" "",
    use "statements"]),
  ("macro repetition", context [
    pop r"\)[^\s()]?([*+])" "" |>.parts [(1, "keyword.operator")],
    mark (r"\$" ++ name) "variable.other"])]

/-- The contexts of values. -/
def values : Grammar := [
  ("visibility", context [mark r"\bpub\b" "storage.modifier"]),
  ("statements", context [
    use "comments",
    use "attributes",
    use "visibility",
    mark ("'" ++ name ++ "(?=:(?!:))") "entity.name.label",
    use "definitions",
    push (r"\b(?:format|print|println|eprint|eprintln|panic|unreachable|unimplemented|write|" ++
      r"writeln|assert|assert_eq|assert_ne|debug_assert|log|error|warn|info|debug|trace)!(?=\s*\()")
      "support.macro" ["format arguments"],
    mark (r"\b" ++ name ++ "!(?!=)") "support.macro",
    use "strings",
    mark lifetime "storage.modifier.lifetime",
    use "numbers",
    mark r"\b(?:true|false)\b" "constant.language",
    mark r"\blet\b" "storage.type",
    mark r"\b(?:const|static|mut|ref|move|unsafe|extern|dyn|crate)\b" "storage.modifier",
    mark r"\bdefault\b(?=\s+(?:fn|impl|type|const|unsafe)\b)" "storage.modifier",
    mark r"\bfn\b" "storage.type.function",
    mark r"\b(?:if|else|match|while|for|loop|break|continue|return|yield)\b" "keyword.control",
    mark r"\b(?:as|in)\b" "keyword.operator",
    mark r"\b(?:where|box)\b" "keyword.other",
    mark r"\b(?:self|super)\b" "variable.language",
    mark primitives "storage.type",
    mark known "support.type",
    mark r"\b[[:upper:]][_[:upper:][:digit:]]+\b" "constant.other",
    mark (r"\$" ++ name) "variable.other",
    mark (r"\b" ++ name ++ r"(?=\()") "support.function",
    mark (r"\b(" ++ name ++ r")(::)(?=<)") "" |>.parts [(1, "support.function")],
    push r"(?<=[=(,\x7b;])\s*\|(?!\|)" "punctuation.section.parameters.begin" ["closure"],
    push r"\b(move)\s*(\|)(?!\|)" "" ["closure"] |>.parts [(1, "storage.modifier")],
    mark r"->|::" "punctuation.separator",
    mark r"=>" "keyword.operator",
    mark r"\.\.[.=]?|&&|\|\||<<=?|>>=?|[-+*/%&|^=!<>]=?|[?@]" "keyword.operator",
    push r"\x7b" "punctuation.section.block.begin" ["block"],
    push r"\(" "punctuation.section.group.begin" ["group"],
    push r"\[" "punctuation.section.group.begin" ["array"],
    mark name ""]),
  ("closure", context [
    pop r"\|" "punctuation.section.parameters.end",
    mark r"&" "keyword.operator",
    mark r"\b(?:mut|ref)\b" "storage.modifier",
    push r":" "punctuation.separator" ["parameter type"],
    mark r"\b_\b" "variable.parameter",
    mark name "variable.parameter"]),
  ("block", context [
    pop r"\x7d" "punctuation.section.block.end",
    use "statements"]),
  ("group", context [
    pop r"\)" "punctuation.section.group.end",
    use "statements"]),
  ("array", context [
    pop r"\]" "punctuation.section.group.end",
    use "statements"]),
  ("format arguments", context [
    set r"\(" "punctuation.section.group.begin" ["format group"],
    popElse]),
  ("format group", context [
    pop r"\)" "punctuation.section.group.end",
    push r"\x22" "punctuation.definition.string.begin" ["format string"],
    use "statements"]),
  ("format string", context [
    pop r"\x22" "punctuation.definition.string.end",
    use "escapes",
    mark r"\x7b\x7b|\x7d\x7d" "constant.character.escape",
    mark r"\x7b[^\x7b\x7d\x22]*\x7d" "constant.other.placeholder"] |>.whole "string.quoted.double")]

end Rust

open Rust

/-- The grammar of Rust. -/
def rust : Grammar :=
  [("main", context [use "statements"])] ++
  trivia ++ literals ++ rawStrings ++ types ++ definitions ++ values

end DocPreview.Highlight.Language

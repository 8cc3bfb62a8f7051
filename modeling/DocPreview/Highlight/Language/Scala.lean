import DocPreview.Highlight.Grammar

/-!
# The grammar of Scala
-/

namespace DocPreview.Highlight.Language

open Grammar

namespace Scala

/-- A name. -/
def name : String := r"(?:[a-zA-Z_$][\w$]*|\x60[^\x60\n]+\x60)"

/-- The contexts of definitions and expressions. -/
def statements : Grammar := [
  ("main", context [
    use "comments",
    push r"\b(?:import)\b" "keyword.other.import" ["import"],
    push r"\bpackage\b" "keyword.declaration.namespace" ["package"],
    push r"\b(?:case\s+)?(?:class)\b" "storage.type.class" ["class head", "class name"],
    push r"\btrait\b" "storage.type.trait" ["class head", "class name"],
    push r"\b(?:case\s+|package\s+)?object\b" "storage.type.object" ["class head", "class name"],
    push r"\bdef\b" "storage.type.function" ["method end", "method name"],
    push r"\bval\b" "storage.type.stable" ["value name"],
    push r"\bvar\b" "storage.type.volatile" ["value name"],
    push r"\btype\b" "storage.type" ["type name"],
    push r"\b(?:extends|with|derives)\b" "keyword.declaration" ["parent"],
    push r"\bcase\b" "keyword.control.flow" ["case"],
    mark (r"\b(?:if|else|do|while|for|yield|match|return|throw|try|catch|finally)\b")
      "keyword.control.flow",
    mark r"\bnew\b" "keyword.other",
    mark r"\bforSome\b" "keyword.declaration",
    mark (r"\b(?:private|protected|abstract|final|lazy|sealed|implicit|override|macro)\b")
      "storage.modifier",
    mark r"\b(?:true|false|null|Nil|None)\b" "constant.language",
    mark r"\b(?:this|super)\b" "variable.language",
    mark r"\b_\b" "variable.language",
    use "literals",
    push r"@(?=[a-zA-Z])" "punctuation.definition.annotation" ["annotation"],
    mark r"=>" "storage.type.function.arrow",
    use "tags",
    mark r"(?<![-!#%&*+./:<=>?@\\^|~])=(?![-!#%&*+/:<=>?@\\^|~])" "keyword.operator.assignment",
    push r"(?<=[\w\)\]\x60])\s*:(?![-!#%&*+/:<=>?@\\^|~])" "punctuation.ascription" ["type"],
    mark r"\b(?:Unit|Boolean|Byte|Char|Short|Int|Float|Long|Double)\b" "storage.type.primitive",
    mark (name ++ r"(?=\s*(?::[^=\x7b\x7d(),;\n]*)?=>)") "variable.parameter",
    mark r"\b[A-Z]\w*\b" "support.class",
    mark r"[-!#%&*+/:<=>?@\\^|~]+" "",
    mark name "",
    mark r"(?<![\w)\]])\(\)" "constant.language",
    push r"\x7b" "punctuation.section.block.begin" ["block"],
    push r"\(" "punctuation.section.group.begin" ["group"],
    push r"\[" "punctuation.section.brackets.begin" ["type arguments"]]),
  ("case", context [
    pop r"=>" "keyword.operator.arrow",
    use "comments",
    set r"\bif\b" "keyword.control.flow" ["guard"],
    use "literals",
    mark r"\b(?:true|false|null|Nil|None)\b" "constant.language",
    mark r"_\*" "keyword.operator.sequence",
    mark r"\b_\b" "variable.language",
    push r":(?!:)" "punctuation.ascription" ["case type"],
    mark r"\b[a-z]\w*(?=\s*\.)" "",
    mark r"\b[a-z]\w*\b" "variable.parameter",
    mark r"\b[A-Z]\w*\b" "support.class",
    mark r"\(\)" "constant.language",
    mark r"[@|]" "keyword.operator.pattern",
    push r"\[" "punctuation.section.brackets.begin" ["type arguments"]]),
  ("case type", context [
    pop r"(?==>)" "",
    use "type"]),
  ("guard", context [
    pop r"=>" "keyword.operator.arrow",
    mark (name ++ r"(?=\s*=>)") "",
    use "main"]),
  ("block", context [
    pop r"\x7d" "punctuation.section.block.end",
    use "main"]),
  ("group", context [
    pop r"\)" "punctuation.section.group.end",
    use "main"]),
  ("type arguments", context [
    pop r"\]" "punctuation.section.brackets.end",
    push r"\[" "punctuation.section.brackets.begin" ["type arguments"],
    push r"\(" "punctuation.section.group.begin" ["group"],
    mark r"\b(?:Unit|Boolean|Byte|Char|Short|Int|Float|Long|Double)\b" "storage.type.primitive",
    mark r"=>" "storage.type.function.arrow",
    mark r"<:|>:|<%|[+:-]" "keyword.operator.bound",
    mark r"\b_\b" "",
    mark name "support.class",
    mark r"," "punctuation.separator"]),
  ("type", context [
    mark r"\b(?:Unit|Boolean|Byte|Char|Short|Int|Float|Long|Double)\b" "storage.type.primitive",
    push r"\[" "punctuation.section.brackets.begin" ["type arguments"],
    mark r"=>" "storage.type.function.arrow",
    mark r"\." "punctuation.accessor",
    mark r"[|&]" "support.type",
    mark r"\b_\b" "",
    pop (r"(?=\b(?:with|extends)\b)") "",
    mark r"\b[A-Za-z_]\w*\b" "support.class",
    push r"\((?=[^)]*\)\s*=>)" "punctuation.section.group.begin" ["type group"],
    pop r"(?=\S)|$" ""]),
  ("type group", context [
    pop r"\)" "punctuation.section.group.end",
    mark r"\b(?:Unit|Boolean|Byte|Char|Short|Int|Float|Long|Double)\b" "storage.type.primitive",
    push r"\[" "punctuation.section.brackets.begin" ["type arguments"],
    mark r"\b[A-Za-z_]\w*\b" "support.class"])]

/-- The contexts of the heads of definitions, and of literals. -/
def parts : Grammar := [
  ("import", context [
    pop r"$|(?=;)" "",
    mark r"=>" "keyword.operator.arrow",
    mark r"\b_\b" "variable.language.underscore",
    mark r"\b[a-z]\w*\.?" "variable.package",
    mark r"\b[A-Z]\w*\b" "support.class"]),
  ("package", context [
    pop r"$|(?=[;\x7b])" "",
    mark r"[\w$]+(?:\.[\w$]+)*" "entity.name.namespace"]),
  ("class name", context [pop name "entity.name.class", popElse]),
  ("class head", context [
    push r"\[" "punctuation.section.brackets.begin" ["type arguments"],
    push r"\(" "punctuation.section.group.begin" ["parameter list"],
    mark r"\b(?:private|protected)\b" "storage.modifier.access",
    popElse]),
  ("parent", context [
    mark (name ++ r"\.") "",
    set name "entity.other.inherited-class" ["parent parts"],
    popElse]),
  ("parent parts", context [
    push r"\[" "punctuation.section.brackets.begin" ["type arguments"],
    popElse]),
  ("method name", context [
    pop r"\bthis\b" "entity.name.function.constructor",
    pop (name ++ r"|[-!#%&*+/:<=>?@\\^|~]+") "entity.name.function",
    popElse]),
  ("method end", context [
    push r"\[" "punctuation.section.brackets.begin" ["type arguments"],
    push r"\(" "punctuation.section.group.begin" ["parameter list"],
    set r":" "punctuation.ascription" ["type"],
    pop r"(?=\S)|$" ""]),
  ("parameter list", context [
    pop r"\)" "punctuation.section.group.end",
    use "comments",
    mark ("\\b(private|protected)\\s+(va[lr])\\s+(" ++ name ++ ")") "" |>.parts [
      (1, "storage.modifier.access"), (2, "storage.type"), (3, "entity.name.val")],
    mark r"\b(?:implicit|val|var|private|protected|override|final)\b" "storage.modifier",
    push r"=" "keyword.operator.assignment" ["default value"],
    push r":" "punctuation.ascription" ["parameter type"],
    push r"@(?=[a-zA-Z])" "punctuation.definition.annotation" ["annotation"],
    mark name "variable.parameter"]),
  ("parameter type", context [
    mark r"\*" "keyword.operator.varargs",
    use "type"]),
  ("default value", context [
    pop r"(?=[,)])" "",
    use "main"]),
  ("value name", context [
    pop (name ++ r"(?=\s*(?:[:=]|$))") "entity.name.val",
    popElse]),
  ("type name", context [pop name "entity.name.type", popElse]),
  ("annotation", context [
    pop name "variable.annotation"] |>.whole "meta.annotation"),
  ("comments", context [
    push r"/\*" "punctuation.definition.comment.begin" ["block comment"],
    mark r"//.*$" "comment.line.double-slash"]),
  ("tags", context [
    push r"</?([_a-zA-Z][\w:.-]*)(?=[^>]*>)" "" ["tag"] |>.parts [(1, "entity.name.tag")]]),
  ("tag", context [
    pop r"/?>" "",
    mark r"[_a-zA-Z][\w:.-]*(?=\s*=)" "entity.other.attribute-name",
    push r"\x22" "punctuation.definition.string.begin" ["attribute text"],
    push r"\x7b" "punctuation.section.block.begin" ["block"]]),
  ("attribute text", context [pop r"\x22" "punctuation.definition.string.end"]
    |>.whole "string.quoted.double"),
  ("block comment", context [
    push r"/\*" "punctuation.definition.comment.begin" ["block comment"],
    pop r"\*/" "punctuation.definition.comment.end"] |>.whole "comment.block"),
  ("literals", context [
    mark r"\b0[xX]\h+[lL]?\b" "constant.numeric.hex",
    mark r"\b\d+\.\d+(?:[eE][-+]?\d+)?[fFdD]?\b|\b\d+[eE][-+]?\d+[fFdD]?\b|\b\d+[fFdDlL]?\b"
      "constant.numeric",
    push r"\b(?:s|f|raw)(\x22\x22\x22)" "support.function" ["triple template"]
      |>.parts [(1, "string.quoted.triple.interpolated")],
    push r"\b(?:s|f|raw)(\x22)" "support.function" ["template"]
      |>.parts [(1, "string.quoted.interpolated")],
    push r"\x22\x22\x22" "punctuation.definition.string.begin" ["triple quoted"],
    push r"\x22" "punctuation.definition.string.begin" ["quoted"],
    mark r"'(?:\\(?:[btnfr\\\x22']|u\h{4})|[^\\'\n])'" "constant.character.literal",
    mark r"'[a-zA-Z_]\w*" "constant.other.symbol"]),
  ("template", context [
    pop r"\x22" "string.quoted.interpolated",
    use "escapes",
    use "interpolation"] |>.content "string.quoted.interpolated"),
  ("triple template", context [
    pop r"\x22\x22\x22" "string.quoted.triple.interpolated",
    use "interpolation"] |>.content "string.quoted.triple.interpolated"),
  ("interpolation", context [
    mark r"\$\$" "constant.character.escape",
    push r"\$\x7b" "string.quoted.interpolated" ["braced interpolation"],
    mark r"\$[a-zA-Z_]\w*" "variable.other"]),
  ("braced interpolation", context [
    pop r"\x7d" "string.quoted.interpolated",
    use "main"] |>.clear (.some 1)),
  ("triple quoted", context [pop r"\x22\x22\x22(?!\x22)" "punctuation.definition.string.end"]
    |>.whole "string.quoted.triple"),
  ("quoted", context [
    pop r"\x22" "punctuation.definition.string.end",
    use "escapes",
    pop r"(?=\n)" "invalid.illegal"] |>.whole "string.quoted.double"),
  ("escapes", context [
    mark r"\\(?:[btnfr\\\x22']|u\h{4}|[0-7]{1,3})" "constant.character.escape",
    mark r"\\." "invalid.illegal"])]

end Scala

open Scala

/-- The grammar of Scala. -/
def scala : Grammar := statements ++ parts

end DocPreview.Highlight.Language

import DocPreview.Highlight.Language.Css
import DocPreview.Highlight.Language.JavaScript

/-!
# The grammars of HTML, of XML and of build files in XML

Scripts and style sheets are read by the grammars of their own languages, up to the tag that ends
them.
-/

namespace DocPreview.Highlight.Language

open Grammar

/-! ### HTML -/

namespace Html

/-- A script that is not written in JavaScript. -/
def otherScript : String :=
  r"(?![^>]*(?i:type\s*=\s*['\x22]?(?!text/(?:javascript|ecmascript|babel|jsx)|application/" ++
    r"(?:x-)?(?:javascript|ecmascript)|module|['\x22>])))"

/-- The contexts of tags. -/
def tags : Grammar := [
  ("tag", context [
    pop r"/?>" "punctuation.definition.tag.end",
    use "attributes"] |>.whole "meta.tag"),
  ("attributes", context [
    push r"(?i:style)(?=\s*=)" "entity.other.attribute-name.style" ["style equals"],
    push r"(?i:on[a-z]+)(?=\s*=)" "entity.other.attribute-name.event" ["event equals"],
    push r"[^\s\x22'>/=<]+" "entity.other.attribute-name" ["equals"]]),
  ("equals", context [
    set r"=" "punctuation.separator.key-value" ["attribute value"],
    popElse]),
  ("attribute value", context [
    set r"\x22" "punctuation.definition.string.begin" ["double quoted"],
    set r"'" "punctuation.definition.string.begin" ["single quoted"],
    pop r"[^\s\x22'=<>\x60]+" "string.unquoted",
    popElse]),
  ("double quoted", context [
    pop r"\x22" "punctuation.definition.string.end",
    use "entities"] |>.whole "string.quoted.double"),
  ("single quoted", context [
    pop r"'" "punctuation.definition.string.end",
    use "entities"] |>.whole "string.quoted.single"),
  ("style equals", context [
    mark r"=" "punctuation.separator.key-value",
    set r"\x22" "string.quoted.double" ["double end", "css:declaration rules"]
      |>.over "double escape",
    set r"'" "string.quoted.single" ["single end", "css:declaration rules"]
      |>.over "single escape",
    set r"(?=\S)" "" ["attribute value"]]),
  ("event equals", context [
    mark r"=" "punctuation.separator.key-value",
    set r"\x22" "string.quoted.double" ["double end", "js:main"] |>.over "double escape",
    set r"'" "string.quoted.single" ["single end", "js:main"] |>.over "single escape",
    set r"(?=\S)" "" ["attribute value"]]),
  ("double escape", context [pop r"(?=\x22)" ""]),
  ("single escape", context [pop r"(?=')" ""]),
  ("double end", context [
    pop r"\x22" "string.quoted.double",
    popElse]),
  ("single end", context [
    pop r"'" "string.quoted.single",
    popElse])]

/-- The contexts of scripts and style sheets. -/
def embeddings : Grammar := [
  ("script", context [
    pop r"/>" "punctuation.definition.tag.end",
    set r">" "punctuation.definition.tag.end" ["script end", "js:main"] |>.over "script escape",
    use "attributes"] |>.whole "meta.tag"),
  ("script escape", context [pop r"(?=(?:-->\s*)?</(?i:script))" ""]),
  ("script end", context [
    mark r"-->" "comment.block",
    pop r"(</)((?i:script))\s*(>)" "" |>.parts [(2, "entity.name.tag.script")],
    popElse]),
  ("style", context [
    pop r"/>" "punctuation.definition.tag.end",
    set r">" "punctuation.definition.tag.end" ["style end", "css:main"] |>.over "style escape",
    use "attributes"] |>.whole "meta.tag"),
  ("style escape", context [pop r"(?=(?:-->\s*)?</(?i:style))" ""]),
  ("style end", context [
    mark r"-->" "comment.block",
    pop r"(</)((?i:style))\s*(>)" "" |>.parts [(2, "entity.name.tag.style")],
    popElse])]

/-- The contexts of markup. -/
def markup : Grammar := [
  ("markup", context [
    push r"<!--" "punctuation.definition.comment.begin" ["comment"],
    push r"(<\?)(xml)" "" ["declaration"] |>.parts [(2, "entity.name.tag.xml")],
    push r"(<!)((?i:DOCTYPE))" "" ["document type"] |>.parts [(2, "entity.name.tag.doctype")],
    push r"<!\[CDATA\[" "" ["character data"],
    push ("(<)((?i:script))\\b" ++ otherScript) "" ["script"]
      |>.parts [(2, "entity.name.tag.script")],
    push r"(<)((?i:style))\b" "" ["style"] |>.parts [(2, "entity.name.tag.style")],
    push r"(</?)([a-zA-Z][^\s/>\x00<]*)" "" ["tag"] |>.parts [(2, "entity.name.tag")],
    use "entities"]),
  ("comment", context [pop r"-->" ""] |>.whole "comment.block"),
  ("declaration", context [
    pop r"\?>" "punctuation.definition.tag.end",
    push r"[^\s\x22'>/=<?]+" "entity.other.attribute-name" ["equals"]]),
  ("document type", context [
    pop r">" "punctuation.definition.tag.end",
    mark r"\x22[^\x22>]*\x22" "string.quoted.double",
    mark r"'[^'>]*'" "string.quoted.single"]),
  ("character data", context [pop r"\]\]>" ""] |>.whole "constant.other.inline-data"),
  ("entities", context [
    mark r"&(?:[a-zA-Z0-9]+|#[0-9]+|#[xX][0-9a-fA-F]+);" "constant.character.entity"])]

end Html

section

open Html

/-- The grammar of HTML. -/
def html : Grammar :=
  [("main", context [use "markup"])] ++ markup ++ tags ++ embeddings ++
  javaScript.embedded "js" ++ css.embedded "css"

end

/-! ### XML -/

/-- The grammar of XML. -/
def xml : Grammar := [
  ("main", context [
    push r"(<\?)(xml)(?=\s)" "" ["declaration"] |>.parts [(2, "entity.name.tag")],
    push r"(<\?)([-_a-zA-Z0-9]+)" "" ["instruction"] |>.parts [(2, "entity.name.tag")],
    push r"(<!)(DOCTYPE)(?:\s+([:a-zA-Z_][:a-zA-Z0-9_.-]*))?" "" ["document type"]
      |>.parts [(2, "keyword.doctype"), (3, "variable.documentroot")],
    use "comments",
    push r"<!\[CDATA\[" "punctuation.definition.string.begin" ["character data"],
    push r"(</?)([:a-zA-Z_][-\w.:]*)" "" ["tag"] |>.parts [(2, "entity.name.tag")],
    use "entities"]),
  ("comments", context [push r"<!--" "punctuation.definition.comment.begin" ["comment"]]),
  ("comment", context [pop r"-->" ""] |>.whole "comment.block"),
  ("character data", context [pop r"\]\]>" ""] |>.whole "string.unquoted.cdata"),
  ("declaration", context [
    pop r"\?>" "punctuation.definition.tag.end",
    use "attributes"]),
  ("instruction", context [
    pop r"\?>" "punctuation.definition.tag.end"]),
  ("document type", context [
    pop r">" "punctuation.definition.tag.end",
    push r"\[" "punctuation.section.brackets.begin" ["subset"]]),
  ("subset", context [
    pop r"\]" "punctuation.section.brackets.end",
    use "comments",
    push (r"(<!)(ATTLIST)\s+([:a-zA-Z_][:a-zA-Z0-9_.-]*)(?:\s+([:a-zA-Z_][:a-zA-Z0-9_.-]*))?") ""
      ["subset declaration"] |>.parts [
        (2, "keyword.declaration"), (3, "variable.other.element"), (4, "variable.other.attribute")],
    push r"(<!)(ENTITY|ELEMENT|NOTATION)(?:\s+(%\s+)?([:a-zA-Z_][:a-zA-Z0-9_.-]*))?" ""
      ["subset declaration"] |>.parts [(2, "keyword.declaration"), (4, "variable.other")]]),
  ("subset declaration", context [
    pop r">" "punctuation.definition.tag.end",
    mark r"[*?+]" "keyword.operator.quantifier",
    use "strings"]),
  ("tag", context [
    pop r"/?>" "punctuation.definition.tag.end",
    use "attributes"]),
  ("attributes", context [
    mark r"[:a-zA-Z_][-\w.:]*(?=\s*=)" "entity.other.attribute-name",
    mark r"=" "punctuation.separator.key-value",
    use "strings"]),
  ("strings", context [
    push r"\x22" "punctuation.definition.string.begin" ["double quoted"],
    push r"'" "punctuation.definition.string.begin" ["single quoted"]]),
  ("double quoted", context [
    pop r"\x22" "punctuation.definition.string.end",
    use "entities"] |>.whole "string.quoted.double"),
  ("single quoted", context [
    pop r"'" "punctuation.definition.string.end",
    use "entities"] |>.whole "string.quoted.single"),
  ("entities", context [
    mark r"&(?:[:a-zA-Z_][:a-zA-Z0-9_.-]*|#[0-9]+|#x[0-9a-fA-F]+);" "constant.character.entity"])]

/-- The grammar of build files in XML. -/
def buildFile : Grammar := [
  ("main", context [
    push r"<!--" "punctuation.definition.comment.begin" ["comment"],
    push r"(</?)([-_a-zA-Z0-9:]+)" "" ["tag"] |>.parts [(2, "entity.name.tag")],
    mark r"&(?:[a-zA-Z]+|#[0-9]+|#x[0-9a-fA-F]+);" "constant.character.entity"]),
  ("comment", context [pop r"-->" "punctuation.definition.comment.end"] |>.whole "comment.block"),
  ("tag", context [
    pop r"/?>" "punctuation.definition.tag",
    mark r" [a-zA-Z-]+" "entity.other.attribute-name",
    push r"\x22" "punctuation.definition.string.begin" ["double quoted"],
    push r"'" "punctuation.definition.string.begin" ["single quoted"]]),
  ("double quoted", context [pop r"\x22" "punctuation.definition.string.end"]
    |>.whole "string.quoted.double"),
  ("single quoted", context [pop r"'" "punctuation.definition.string.end"]
    |>.whole "string.quoted.single")]

end DocPreview.Highlight.Language
